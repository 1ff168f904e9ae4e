import ClassRuntime.Proofs.Native.Serving

namespace ClassRuntime

/-!
# Lawful natives

A native gets hold of the machine and could do anything to it.  It is lawful if
whatever it does to the machine could be done by requests.  All built-in
natives are lawful, and a registry of lawful natives stays one when further
ones are registered.
-/

namespace Invocation

/-- The machine has been used through requests, and the operands in any way. -/
def Reaches {ι : Type} (before after : Invocation ι) : Prop :=
  before.machine.Reaches after.machine

instance {ι : Type} : IsPreorder (Invocation ι) Reaches where
  refl _ := Relation.ReflTransGen.refl
  trans _ _ _ := Relation.ReflTransGen.trans

end Invocation

namespace Machine

variable {ι α : Type}

instance : IsPreorder (Machine ι) Reaches where
  refl _ := Relation.ReflTransGen.refl
  trans _ _ _ := Relation.ReflTransGen.trans

theorem reaches_perform (request : Request ι α) : request.perform.Within Reaches :=
  fun _ => Relation.ReflTransGen.single ⟨α, request, rfl⟩

theorem reaches_getClass (id : ClassId) :
    (getClass id : Action (Machine ι) (LoadedClass ι)).Within Reaches := by
  intro machine
  rw [outcome_getClass]
  exact Relation.ReflTransGen.refl

end Machine

namespace Native

variable {ι α : Type}

/-- A native that uses the machine through requests alone. -/
def Lawful (native : Native ι) : Prop :=
  ∀ site, (native site).Within Invocation.Reaches

theorem deferring_lawful :
    Deferring (fun α (action : Action (Machine ι) α) => action.Within Machine.Reaches)
      (fun α (action : Action (Invocation ι) α) => action.Within Invocation.Reaches)
      fun _ action => action.Within Invocation.Reaches where
  machine := Action.compositional_within Machine.Reaches
  request := Machine.reaches_perform
  lookUp := Machine.reaches_getClass
  erroneous _ := .fail _
  invocation := Action.compositional_within Invocation.Reaches
  onMachine reaches := reaches.within fun _ _ reached => reached
  reference _ _ := .ofExcept _
  fail _ := .fail _
  complete := .pure _
  answer _ := .bind (fun _ => Relation.ReflTransGen.refl) fun _ => .pure _
  refuse _ := .fail _
  after := .bind
  defer _ := .bind (fun _ => Relation.ReflTransGen.refl) fun _ => .pure _

/-- Every native of every runtime is lawful. -/
theorem lawful_builtins {key : MethodKey} {native : Native ι}
    (listed : (key, native) ∈ (builtins : List (MethodKey × Native ι))) : native.Lawful := by
  rcases builtin_cases listed with ⟨category, _, prompt | ⟨rfl, _, rfl | rfl⟩⟩
  · exact prompt deferring_lawful.toServing
  · exact deferring_lawful.getClassLoader
  · exact deferring_lawful.getConstantPool

end Native

namespace Registry

variable {η : Type} {registry : Registry η}

/-- Every handler of the registry has the property. -/
def All (property : η → Prop) (registry : Registry η) : Prop :=
  ∀ key entry, registry.lookup key = .ok entry → property entry.handler

theorem lookup_registered (registry : Registry η) (key sought : MethodKey) (handler : η) :
    (registry.registered key handler).lookup sought =
      match MethodDescriptor.parse key.descriptor with
      | .ok descriptor =>
        if key = sought then .ok ⟨handler, descriptor⟩ else registry.lookup sought
      | .error _ => registry.lookup sought := by
  unfold registered register
  cases MethodDescriptor.parse key.descriptor with
  | error cause => rfl
  | ok descriptor =>
    change lookup ⟨registry.entries.insert key ⟨handler, descriptor⟩⟩ sought = _
    rw [lookup, Table.find?_insert]
    by_cases same : key = sought
    · simp only [if_pos same]
    · simp only [if_neg same]
      rfl

theorem all_registered {property : η → Prop} (all : registry.All property) (key : MethodKey)
    {handler : η} (holds : property handler) :
    (registry.registered key handler).All property := by
  intro sought entry found
  rw [lookup_registered] at found
  split at found
  · split at found
    · cases found
      exact holds
    · exact all sought entry found
  · exact all sought entry found

/-- The registry after further handlers have been registered. -/
def extended (registry : Registry η) (natives : List (MethodKey × η)) : Registry η :=
  natives.foldl (fun registry entry => registry.registered entry.1 entry.2) registry

theorem ofList_eq (natives : List (MethodKey × η)) : ofList natives = empty.extended natives :=
  rfl

theorem all_extended {property : η → Prop} {natives : List (MethodKey × η)}
    (all : registry.All property) (holds : ∀ entry ∈ natives, property entry.2) :
    (registry.extended natives).All property := by
  induction natives generalizing registry with
  | nil => exact all
  | cons entry rest inductiveStep =>
    exact inductiveStep (all_registered all entry.1 (holds entry List.mem_cons_self))
      fun other member => holds other (List.mem_cons_of_mem _ member)

theorem all_ofList {property : η → Prop} {natives : List (MethodKey × η)}
    (holds : ∀ entry ∈ natives, property entry.2) : (ofList natives).All property :=
  all_extended (fun _ _ impossible => by cases impossible) holds

/-- Handlers of other methods make no difference. -/
theorem lookup_extended_of_notMem {natives : List (MethodKey × η)} {key : MethodKey}
    (other : key ∉ natives.map Prod.fst) :
    (registry.extended natives).lookup key = registry.lookup key := by
  induction natives generalizing registry with
  | nil => rfl
  | cons entry rest inductiveStep =>
    rw [List.map_cons, List.mem_cons, not_or] at other
    refine (inductiveStep other.2).trans ?_
    rw [lookup_registered]
    split
    · exact if_neg (Ne.symm other.1)
    · rfl

/-- A registry of handlers for different methods holds each of them. -/
theorem lookup_extended {natives : List (MethodKey × η)} {key : MethodKey} {handler : η}
    {descriptor : MethodDescriptor} (distinct : (natives.map Prod.fst).Nodup)
    (listed : (key, handler) ∈ natives)
    (parsed : MethodDescriptor.parse key.descriptor = .ok descriptor) :
    (registry.extended natives).lookup key = .ok ⟨handler, descriptor⟩ := by
  induction natives generalizing registry with
  | nil => cases listed
  | cons entry rest inductiveStep =>
    rw [List.map_cons, List.nodup_cons] at distinct
    rcases List.mem_cons.1 listed with rfl | later
    · refine (lookup_extended_of_notMem distinct.1).trans ?_
      rw [lookup_registered, parsed]
      exact if_pos rfl
    · exact inductiveStep distinct.2 later

end Registry

theorem Native.lawful_builtinRegistry {ι : Type} :
    (builtinRegistry : Registry (Native ι)).All Lawful :=
  Registry.all_ofList fun _ listed => lawful_builtins listed

end ClassRuntime

import ClassRuntime.Proofs.Native.Lawful

namespace ClassRuntime

/-!
# Natives that keep the protocol

A native keeps the protocol of calls if it leaves what its descriptor says when
it is complete, if it leaves nothing and rewinds its frame when it is put off,
and if it blames no one for doing otherwise.  That the same call is not put off
again and again is a matter of what it is put off for: it asks for a class of
which it finds that the initialization has not started.  If it asks for the same
name through the same loader when it is dispatched again, it finds the same
class, and finds it started.
-/

namespace Invocation

/-- The operands are as before. -/
def Untouched {ι : Type} (before after : Invocation ι) : Prop :=
  after.operands = before.operands

instance {ι : Type} : IsPreorder (Invocation ι) Untouched where
  refl _ := rfl
  trans _ _ _ first second := second.trans first

end Invocation

/-- The class that the receiver of a call mirrors. -/
def CallSite.receiver? (site : CallSite) : Option ClassId :=
  (site.arguments.reference 0).toOption.join.bind Object.mirrored?

namespace Native

variable {ι : Type}

/-! ## The end of a native -/

/-- How a native whose results are of the category may end if it has found no
operands. -/
inductive Concludes (category : Category) : Outcome → Operands → Prop
  | nothing (void : category = .void) : Concludes category .complete .empty
  | value {value : Value} (fits : value.category = category) :
      Concludes category .complete (Operands.empty.push value)
  | deferred (dependency : ClassId) :
      Concludes category (.deferred dependency) Operands.empty.rewind

/-- Started without operands, the action ends as it is told, if it does not
fail. -/
def Leads (allowed : Outcome → Operands → Prop) (action : Action (Invocation ι) Outcome) : Prop :=
  ∀ machine outcome after, action.outcome ⟨machine, .empty⟩ = (.ok outcome, after) →
    allowed outcome after.operands

theorem serving_leads {allowed : Category → Outcome → Operands → Prop}
    (complete : allowed .void .complete .empty)
    (answer : ∀ value : Value,
      allowed value.category .complete (Operands.empty.push value)) :
    Serving (fun _ _ => True)
      (fun α (action : Action (Invocation ι) α) => action.Within Invocation.Untouched)
      fun category => Leads (allowed category) where
  machine := ⟨fun _ => trivial, trivial, fun _ _ => trivial, fun _ _ => trivial⟩
  request _ := trivial
  lookUp _ := trivial
  erroneous _ := trivial
  invocation := Action.compositional_within Invocation.Untouched
  onMachine _ _ := rfl
  reference _ _ := .ofExcept _
  fail _ := .fail _
  complete := by
    rintro machine _ _ ⟨⟩
    exact complete
  answer := by
    rintro value _ rfl machine _ _ ⟨⟩
    exact answer value
  refuse := by
    rintro _ _ _ machine _ _ ⟨⟩
  after := by
    intro _ _ _ _ untouched leads machine outcome after ended
    rcases Action.bind_ok ended with ⟨value, middle, first, rest⟩
    have same := untouched ⟨machine, .empty⟩
    rw [first] at same
    rcases middle with ⟨later, operands⟩
    cases same
    exact leads value later outcome after rest

theorem deferring_concludes :
    Deferring (fun _ _ => True)
      (fun α (action : Action (Invocation ι) α) => action.Within Invocation.Untouched)
      fun category => Leads (Concludes category) where
  toServing := serving_leads (.nothing rfl) fun _ => .value rfl
  defer := by
    rintro dependency machine _ _ ⟨⟩
    exact .deferred dependency

theorem serving_completes :
    Serving (fun _ _ => True)
      (fun α (action : Action (Invocation ι) α) => action.Within Invocation.Untouched)
      fun _ => Leads fun outcome _ => outcome = .complete :=
  serving_leads rfl fun _ => rfl

/-! ## How natives fail -/

theorem fair_argument (site : CallSite) (index : Nat) :
    FailsFairly ((site.arguments.reference index).mapError .error) := by
  unfold Arguments.reference
  split
  · exact .error (Fault.fair_error rfl)
  · split
    · exact .error (Fault.fair_error rfl)
    · exact .ok _

theorem deferring_fair :
    Deferring (fun α (action : Action (Machine ι) α) => action.Throws Fault.Fair)
      (fun α (action : Action (Invocation ι) α) => action.Throws Fault.Fair)
      fun _ action => action.Throws Fault.Fair where
  machine := Action.compositional_throws Fault.Fair
  request := Machine.requesting_fair.perform
  lookUp := Machine.requesting_fair.getClass
  erroneous _ := .throw (Fault.fair_error rfl)
  invocation := Action.compositional_throws Fault.Fair
  onMachine := .within
  reference site index := .ofExcept (fair_argument site index)
  fail other := .throw (Fault.fair_error other)
  complete := .pure _
  answer _ := .bind (.modify _) fun _ => .pure _
  refuse other := .throw (Fault.fair_error other)
  after := .bind
  defer _ := .bind (.modify _) fun _ => .pure _

/-! ## What natives wait for -/

/-- The only reason for which the native is put off is that it asks for a class
of some name through some loader, and the initialization of that class has not
started. -/
def Asks (native : Native ι) : Prop :=
  ∀ site, ∃ loader name, ∀ machine dependency after,
    (native site).outcome ⟨machine, .empty⟩ = (.ok (.deferred dependency), after) →
      (pendingInitialization loader name).outcome machine = (.ok (some dependency), after.machine)

section Pending

variable {machine after : Machine ι} {loader : LoaderId} {name : ClassName}
  {dependency : ClassId}

/-- The class has been loaded, and its initialization has not started. -/
theorem load_of_pending (asked : (pendingInitialization loader name).outcome machine =
    (.ok (some dependency), after)) :
    (Area.load loader name).outcome machine.area = (.ok dependency, after.area) ∧
      after.area.progress dependency = .notStarted := by
  unfold pendingInitialization at asked
  rcases Action.bind_ok asked with ⟨id, middle, loads, rest⟩
  rcases Action.bind_ok rest with ⟨loaded, later, looked, last⟩
  rw [Machine.outcome_getClass, Prod.mk.injEq] at looked
  rcases looked with ⟨read, rfl⟩
  split at last
  · cases last
  · split at last
    next unstarted =>
      cases last
      refine ⟨Machine.area_load_of_load loads, ?_⟩
      rw [Area.progress_eq (Area.class?_of_loadedClass read)]
      exact of_decide_eq_true unstarted
    next => cases last

/-- A class that has been found before and has started is not waited for. -/
theorem not_pending (answered : machine.area.lookup? loader name = some dependency)
    (started : machine.area.progress dependency ≠ .notStarted) {other : ClassId} :
    (pendingInitialization loader name).outcome machine ≠ (.ok (some other), after) := by
  intro asked
  rcases load_of_pending asked with ⟨loads, unstarted⟩
  rw [Area.outcome_load_answered answered, Prod.mk.injEq, Except.ok.injEq] at loads
  rcases loads with ⟨rfl, same⟩
  rw [← same] at unstarted
  exact started unstarted

end Pending

/-- A native that asks is not put off again once the class for which it has
waited has started, whatever else has happened. -/
theorem Asks.once {native : Native ι} (asks : native.Asks) {site : CallSite}
    {machine later : Machine ι} {dependency other : ClassId} {after last : Invocation ι}
    (waits : (native site).outcome ⟨machine, .empty⟩ = (.ok (.deferred dependency), after))
    (retains : after.machine.Retains later)
    (started : later.area.progress dependency ≠ .notStarted) :
    (native site).outcome ⟨later, .empty⟩ ≠ (.ok (.deferred other), last) := by
  rcases asks site with ⟨loader, name, asked⟩
  have answered := Area.lookup?_of_load (load_of_pending (asked _ _ _ waits)).1
  intro again
  exact not_pending (retains.answer answered) started (asked _ _ _ again)

theorem asks_of_completes {native : Native ι}
    (completes : ∀ site, Leads (fun outcome _ => outcome = .complete) (native site)) :
    native.Asks := by
  refine fun site => ⟨.bootstrap, .object, fun machine dependency after ended => ?_⟩
  cases completes site machine _ after ended

section Waiting

variable {α : Type} {site : CallSite} {invocation after : Invocation ι}

theorem reference_ok {target : Reference} {place : Nat}
    (ended : (reference site place).outcome invocation = (.ok target, after)) :
    after = invocation ∧ site.arguments.reference place = .ok target := by
  rw [reference, Action.outcome_ofExcept, Prod.mk.injEq] at ended
  rcases ended with ⟨read, rfl⟩
  cases passed : site.arguments.reference place with
  | error cause =>
    rw [passed] at read
    cases read
  | ok passed =>
    rw [passed] at read
    cases read
    exact ⟨rfl, rfl⟩

theorem receiver?_of_receiver {id : ClassId}
    (ended : (receiver site).outcome invocation = (.ok id, after)) :
    after = invocation ∧ site.receiver? = some id := by
  rcases Action.bind_ok ended with ⟨target, middle, read, rest⟩
  rcases reference_ok read with ⟨rfl, argument⟩
  cases target with
  | none => cases rest
  | some object =>
    rcases Action.bind_ok rest with ⟨seen, middle, looked, last⟩
    cases looked
    split at last
    next found here =>
      cases last
      refine ⟨rfl, ?_⟩
      rw [CallSite.receiver?, argument]
      exact (Option.filter_eq_some_iff.1 here).1
    next => cases last

theorem onMachine_ok {action : Action (Machine ι) α} {value : α}
    (ended : (onMachine action).outcome invocation = (.ok value, after)) :
    action.outcome invocation.machine = (.ok value, after.machine) := by
  rw [onMachine, Action.outcome_within, Prod.mk.injEq] at ended
  exact Prod.ext ended.1 (congrArg Invocation.machine ended.2)

/-- A native that has asked for a class is put off if this class is pending, and
otherwise gives an answer. -/
theorem deferred_of_pending {pending : Option ClassId} {question : Action (Machine ι) α}
    {value : α → Value} {dependency : ClassId}
    (ended : (match pending with
      | some dependency => defer dependency
      | none => do
        let result ← onMachine question
        answer (value result)).outcome invocation = (.ok (.deferred dependency), after)) :
    pending = some dependency ∧ after.machine = invocation.machine := by
  cases pending with
  | some waited =>
    cases ended
    exact ⟨rfl, rfl⟩
  | none =>
    rcases Action.bind_ok ended with ⟨result, middle, _, answered⟩
    cases answered

theorem pending_of_getConstantPool {dependency : ClassId}
    (ended : (getConstantPool site).outcome invocation = (.ok (.deferred dependency), after)) :
    (pendingInitialization .bootstrap .constantPool).outcome invocation.machine =
      (.ok (some dependency), after.machine) := by
  unfold getConstantPool at ended
  rcases Action.bind_ok ended with ⟨id, middle, received, rest⟩
  rcases Action.bind_ok rest with ⟨pending, later, asked, last⟩
  rcases receiver?_of_receiver received with ⟨rfl, _⟩
  rcases deferred_of_pending last with ⟨rfl, same⟩
  rw [same]
  exact onMachine_ok asked

/-- The loader that is asked is that of the receiver. -/
theorem pending_of_getClassLoader {dependency : ClassId}
    (ended : (getClassLoader site).outcome invocation = (.ok (.deferred dependency), after)) :
    ∃ id, site.receiver? = some id ∧
      (pendingInitialization id.loader .loaderHandle).outcome invocation.machine =
        (.ok (some dependency), after.machine) := by
  unfold getClassLoader at ended
  rcases Action.bind_ok ended with ⟨id, middle, received, rest⟩
  rcases receiver?_of_receiver received with ⟨rfl, mirrors⟩
  rcases Action.bind_ok rest with ⟨loaded, later, looked, last⟩
  have read := onMachine_ok looked
  rw [Machine.outcome_getClass, Prod.mk.injEq] at read
  have same : middle.machine = later.machine := read.2
  refine ⟨id, mirrors, ?_⟩
  dsimp only at last
  split at last
  · rcases Action.bind_ok last with ⟨pending, middle, none, handed⟩
    cases none
    rcases Action.bind_ok handed with ⟨handle, final, _, answered⟩
    cases answered
  · rcases Action.bind_ok last with ⟨pending, middle, asked, handed⟩
    rcases deferred_of_pending handed with ⟨rfl, unchanged⟩
    rw [unchanged, same]
    exact onMachine_ok asked

theorem asks_getConstantPool : (getConstantPool : Native ι).Asks :=
  fun _ => ⟨.bootstrap, .constantPool, fun _ _ _ ended => pending_of_getConstantPool ended⟩

/-- The arguments determine the loader. -/
theorem asks_getClassLoader : (getClassLoader : Native ι).Asks := by
  refine fun site => ⟨(site.receiver?.getD default).loader, .loaderHandle,
    fun machine dependency after ended => ?_⟩
  rcases pending_of_getClassLoader ended with ⟨id, mirrors, asked⟩
  rw [mirrors]
  exact asked

end Waiting

/-! ## The built-in natives -/

/-- A native that keeps the protocol of calls. -/
structure Conforms (category : Category) (native : Native ι) : Prop where
  fair : ∀ site, (native site).Throws Fault.Fair
  concludes : ∀ site, Leads (Concludes category) (native site)
  asks : native.Asks

theorem conforms_builtin {key : MethodKey} {native : Native ι}
    (listed : (key, native) ∈ (builtins : List (MethodKey × Native ι))) :
    ∃ category, (MethodDescriptor.parse key.descriptor).map MethodDescriptor.resultCategory =
        .ok category ∧ native.Conforms category ∧
      (key ∉ waitingMethods → ∀ site, Leads (fun outcome _ => outcome = .complete)
        (native site)) := by
  rcases builtin_cases listed with ⟨category, parsed, prompt | ⟨rfl, waiting, rfl | rfl⟩⟩
  · have completes := fun site => prompt serving_completes site
    exact ⟨category, parsed, ⟨prompt deferring_fair.toServing,
      prompt deferring_concludes.toServing, asks_of_completes completes⟩, fun _ => completes⟩
  · exact ⟨_, parsed, ⟨deferring_fair.getClassLoader, deferring_concludes.getClassLoader,
      asks_getClassLoader⟩, absurd waiting⟩
  · exact ⟨_, parsed, ⟨deferring_fair.getConstantPool, deferring_concludes.getConstantPool,
      asks_getConstantPool⟩, absurd waiting⟩

end Native

/-- Each built-in native is registered for its own method. -/
def Registry.HoldsBuiltins {ι : Type} (registry : Registry (Native ι)) : Prop :=
  ∀ key native, (key, native) ∈ (Native.builtins : List (MethodKey × Native ι)) →
    ∃ descriptor, MethodDescriptor.parse key.descriptor = .ok descriptor ∧
      registry.lookup key = .ok ⟨native, descriptor⟩

theorem Native.holds_builtinRegistry {ι : Type} :
    (builtinRegistry : Registry (Native ι)).HoldsBuiltins := by
  intro key native listed
  rcases builtin_cases listed with ⟨category, parsed, _⟩
  cases read : MethodDescriptor.parse key.descriptor with
  | error cause =>
    rw [read] at parsed
    cases parsed
  | ok descriptor =>
    refine ⟨descriptor, rfl, ?_⟩
    rw [builtinRegistry, Registry.ofList_eq]
    have distinct : ((builtins : List (MethodKey × Native ι)).map Prod.fst).Nodup := by
      simp [builtins, declared]
    exact Registry.lookup_extended distinct listed read

end ClassRuntime

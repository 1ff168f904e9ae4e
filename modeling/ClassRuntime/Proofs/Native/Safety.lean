import ClassRuntime.Proofs.Machine.Safety
import ClassRuntime.Proofs.Native.Mirrors

namespace ClassRuntime

/-!
# Natives and handles that do not exist

The arguments of a native may be anything.  Handles that come from them are looked
up before they are used: a mirror has to stand for a class of the machine, and an
object whose class is asked for has to have one here.  What is found by way of such
a class exists as well.  So the built-in natives fail with errors of the runtime
alone, with one exception.  Whether an object is an instance of a class is asked
without having looked for the class of the object.

A native that has been put off is dispatched again in a machine of which little is
known.  Initializers have used it, and may have added loaders that spoil the area.
But the names that the native loads then are those that it has loaded before.
-/

/-- A class for which the call is put off exists. -/
def Outcome.Known {ι : Type} (outcome : Outcome) (after : Invocation ι) : Prop :=
  ∀ dependency, outcome = .deferred dependency → (after.machine.area.class? dependency).isSome

/-- The native is asked about an object whose class the machine does not have, while
it does have the class that the receiver mirrors. -/
def CallSite.Strange {ι : Type} (site : CallSite) (machine : Machine ι) : Prop :=
  ∃ id object, site.receiver? = some id ∧ (machine.area.class? id).isSome ∧
    site.arguments.reference 1 = .ok (some object) ∧ machine.area.class? object.type = none

namespace Invocation

variable {ι : Type}

/-- The machine is upheld, whatever has been done to the operands. -/
def Upholds (before after : Invocation ι) : Prop :=
  before.machine.Upholds after.machine

instance : IsPreorder (Invocation ι) Upholds where
  refl invocation := refl_of Machine.Upholds invocation.machine
  trans _ _ _ := trans_of Machine.Upholds

/-- Begun here, the action fails with errors of the runtime alone. -/
abbrev Sound {α : Type} (invocation : Invocation ι) (action : Action (Invocation ι) α)
    (post : α → Invocation ι → Prop) : Prop :=
  action.Sound Upholds Fault.IsError invocation post

end Invocation

namespace Native

variable {ι α : Type} {machine : Machine ι} {invocation : Invocation ι} {site : CallSite}
  {native : Native ι}

/-- What a native does for a call meets no handle that does not exist, neither in
the machine nor when the native is dispatched again. -/
structure Safe (work : Action (Invocation ι) Outcome) (machine : Machine ι) : Prop where
  sound : Invocation.Sound ⟨machine, .empty⟩ work Outcome.Known
  resumes : ∀ {before dependency after later},
    work.outcome ⟨before, .empty⟩ = (.ok (.deferred dependency), after) →
      after.machine.Retains later → later.area.Grounded →
        Invocation.Sound ⟨later, .empty⟩ work Outcome.Known

/-! ## Before the end -/

theorem sound_onMachine {action : Action (Machine ι) α} {post : α → Machine ι → Prop}
    (sound : invocation.machine.Sound action post) :
    invocation.Sound (onMachine action) fun value after => post value after.machine := by
  have whole : (onMachine action).outcome invocation =
      ((action.outcome invocation.machine).1,
        { invocation with machine := (action.outcome invocation.machine).2 }) := rfl
  constructor
  · rw [whole]
    exact sound.related
  · rw [whole]
    exact sound.fault
  · rw [whole]
    exact sound.result

theorem sound_fail {post : α → Invocation ι → Prop} (cause : RuntimeError) :
    invocation.Sound (Action.fail cause) post :=
  .throw ⟨cause, rfl⟩

theorem sound_reference (site : CallSite) (index : Nat) :
    invocation.Sound (reference site index) fun target after =>
      site.arguments.reference index = .ok target ∧ after = invocation := by
  unfold reference
  cases read : site.arguments.reference index with
  | error cause => exact sound_fail cause
  | ok target => exact .pure ⟨rfl, rfl⟩

theorem sound_mirrored (site : CallSite) (object : Object) :
    invocation.Sound (mirrored site object) fun id after => object.mirrored? = some id ∧
      (invocation.machine.area.class? id).isSome ∧ after = invocation := by
  refine Action.Sound.get.bind fun seen middle _ told => ?_
  rcases told with ⟨rfl, rfl⟩
  split
  next id here =>
    rcases Option.filter_eq_some_iff.1 here with ⟨mirrors, known⟩
    exact .pure ⟨mirrors, known, rfl⟩
  next => exact sound_fail _

theorem sound_receiver (site : CallSite) :
    invocation.Sound (receiver site) fun id after => site.receiver? = some id ∧
      (invocation.machine.area.class? id).isSome ∧ after = invocation := by
  refine (sound_reference site 0).bind fun target middle _ told => ?_
  rcases told with ⟨read, rfl⟩
  cases target with
  | none => exact sound_fail _
  | some object =>
    refine (sound_mirrored site object).mono fun id after _ told => ⟨?_, told.2⟩
    rw [CallSite.receiver?, read]
    exact told.1

theorem sound_classArgument (site : CallSite) (index : Nat) :
    invocation.Sound (classArgument site index) fun id? after =>
      (∀ id ∈ id?, (invocation.machine.area.class? id).isSome) ∧ after = invocation := by
  refine (sound_reference site index).bind fun target middle _ told => ?_
  rcases told with ⟨_, rfl⟩
  cases target with
  | none =>
    refine .pure ⟨?_, rfl⟩
    rintro _ ⟨⟩
  | some object =>
    refine .map some ((sound_mirrored site object).mono fun id after _ told => ⟨?_, told.2.2⟩)
    rintro _ ⟨⟩
    exact told.2.1

theorem sound_pendingInitialization {home : LoaderId} {name : ClassName}
    (loads : machine.Loads home name) :
    machine.Sound (pendingInitialization home name) fun pending after =>
      ∀ id ∈ pending, (after.area.class? id).isSome := by
  refine (Machine.sound_load loads).bind fun id middle _ known => ?_
  refine (Machine.sound_getClass known).bind fun loaded later _ found => ?_
  split
  · exact Machine.sound_fail _
  · split
    · refine .pure ?_
      rintro _ ⟨⟩
      exact Option.isSome_iff_exists.2 ⟨loaded, found⟩
    · refine .pure ?_
      rintro _ ⟨⟩

/-! ## The end -/

theorem sound_answer (value : Value) :
    invocation.Sound (answer value) Outcome.Known :=
  .of_ok rfl (refl_of Machine.Upholds invocation.machine) (by rintro _ ⟨⟩)

theorem sound_defer {dependency : ClassId}
    (known : (invocation.machine.area.class? dependency).isSome) :
    invocation.Sound (defer dependency) Outcome.Known := by
  refine .of_ok rfl (refl_of Machine.Upholds invocation.machine) ?_
  rintro _ ⟨⟩
  exact known

/-- What is asked about the receiver has an answer if it has one for each class that
exists. -/
theorem sound_answerReference {question : ClassId → Action (Machine ι) Reference}
    (asks : ∀ {machine : Machine ι} {id}, machine.area.WellFormed →
      (machine.area.class? id).isSome → machine.Sound (question id) fun _ _ => True)
    (fine : invocation.machine.area.WellFormed) (site : CallSite) :
    invocation.Sound (answerReference question site) Outcome.Known := by
  refine (sound_receiver site).bind fun id middle _ told => ?_
  rcases told with ⟨_, known, rfl⟩
  exact (sound_onMachine (asks fine known)).bind fun _ _ _ _ => sound_answer _

theorem sound_answerDescriptor (question : TypeDescriptor → Value) (site : CallSite) :
    invocation.Sound (answerDescriptor question site) Outcome.Known := by
  refine (sound_receiver site).bind fun id middle _ told => ?_
  rcases told with ⟨_, known, rfl⟩
  exact (sound_onMachine (Machine.sound_getClass known)).bind fun _ _ _ _ => sound_answer _

theorem sound_getClass (fine : invocation.machine.area.WellFormed) (site : CallSite) :
    invocation.Sound (getClass site) Outcome.Known := by
  refine (sound_reference site 0).bind fun target middle _ told => ?_
  rcases told with ⟨_, rfl⟩
  cases target with
  | none => exact sound_fail _
  | some object =>
    refine Action.Sound.get.bind fun seen last _ told => ?_
    rcases told with ⟨rfl, rfl⟩
    split
    · exact sound_fail _
    next present =>
      have known : (last.machine.area.class? object.type).isSome := by
        rwa [Option.isNone_iff_eq_none, ← ne_eq, Option.ne_none_iff_isSome] at present
      exact (sound_onMachine (Machine.sound_mirrorOf fine known)).bind fun _ _ _ _ =>
        sound_answer _

theorem sound_getPrimitiveClass (fine : invocation.machine.area.WellFormed) (site : CallSite) :
    invocation.Sound (getPrimitiveClass site) Outcome.Known := by
  refine (sound_reference site 0).bind fun target middle _ told => ?_
  rcases told with ⟨_, rfl⟩
  cases target with
  | none => exact sound_fail _
  | some object =>
    dsimp only
    split
    · exact sound_fail _
    next keyword _ =>
      refine Action.Sound.get.bind fun seen last _ told => ?_
      rcases told with ⟨rfl, rfl⟩
      split
      · exact sound_fail _
      next id answered =>
        have found : last.machine.area.lookup? .bootstrap keyword = some id := by
          unfold Area.primitiveClass? at answered
          split at answered
          · exact answered
          · cases answered
        exact (sound_onMachine (Machine.sound_mirrorOf fine (fine.grounded.answered found))).bind
          fun _ _ _ _ => sound_answer _

theorem sound_isAssignableFrom (fine : invocation.machine.area.WellFormed) (site : CallSite) :
    invocation.Sound (isAssignableFrom site) Outcome.Known := by
  refine (sound_receiver site).bind fun target middle _ told => ?_
  rcases told with ⟨_, knownTarget, rfl⟩
  refine (sound_classArgument site 1).bind fun argument last _ told => ?_
  rcases told with ⟨known, rfl⟩
  cases argument with
  | none => exact sound_fail _
  | some source =>
    exact (sound_onMachine (Machine.sound_isAssignable fine (known source rfl) knownTarget)).bind
      fun _ _ _ _ => sound_answer _

/-- The class of the object is not looked for, but it may be there. -/
theorem sound_isInstance (fine : invocation.machine.area.WellFormed)
    (familiar : ¬ site.Strange invocation.machine) :
    invocation.Sound (isInstance site) Outcome.Known := by
  refine (sound_receiver site).bind fun id middle _ told => ?_
  rcases told with ⟨mirrors, knownTarget, rfl⟩
  refine (sound_reference site 1).bind fun target last _ told => ?_
  rcases told with ⟨read, rfl⟩
  have answers : last.machine.Sound (Machine.isInstance target id) fun _ _ => True := by
    cases target with
    | none => exact .pure trivial
    | some object =>
      have known : (last.machine.area.class? object.type).isSome := by
        rw [← Option.ne_none_iff_isSome]
        exact fun unknown => familiar ⟨id, object, mirrors, knownTarget, read, unknown⟩
      exact Machine.sound_isAssignable fine known knownTarget
  exact (sound_onMachine answers).bind fun _ _ _ _ => sound_answer _

theorem sound_getClassLoader
    (loads : ∀ id, site.receiver? = some id → (invocation.machine.area.class? id).isSome →
      invocation.machine.Loads id.loader .loaderHandle) :
    invocation.Sound (getClassLoader site) Outcome.Known := by
  refine (sound_receiver site).bind fun id middle _ told => ?_
  rcases told with ⟨mirrors, known, rfl⟩
  have loads := loads id mirrors known
  refine (sound_onMachine (Machine.sound_getClass known)).bind fun loaded second upholds _ => ?_
  have loads := loads.later upholds
  have known := upholds.isSome known
  have handed (last : Invocation ι) (upholds : second.Upholds last) : last.Sound (do
      let handle ← onMachine (Machine.classLoader id)
      answer (.reference handle)) Outcome.Known :=
    (sound_onMachine (Machine.sound_classLoader (loads.later upholds)
      (upholds.isSome known))).bind fun _ _ _ _ => sound_answer _
  dsimp only
  split
  · exact handed second (refl_of Invocation.Upholds second)
  · refine (sound_onMachine (sound_pendingInitialization loads)).bind
      fun pending last upholds there => ?_
    cases pending with
    | some dependency => exact sound_defer (there dependency rfl)
    | none => exact handed last upholds

theorem sound_getConstantPool (loads : invocation.machine.Loads .bootstrap .constantPool)
    (site : CallSite) : invocation.Sound (getConstantPool site) Outcome.Known := by
  refine (sound_receiver site).bind fun id middle _ told => ?_
  rcases told with ⟨_, known, rfl⟩
  refine (sound_onMachine (sound_pendingInitialization loads)).bind
    fun pending last upholds there => ?_
  cases pending with
  | some dependency => exact sound_defer (there dependency rfl)
  | none =>
    exact (sound_onMachine (Machine.sound_poolOf (loads.later upholds)
      (upholds.isSome known))).bind fun _ _ _ _ => sound_answer _

/-! ## All built-in natives -/

/-- The one native that does not look for what it needs. -/
def instanceMethod : MethodKey :=
  ⟨.mirror, "isInstance", "(Ljava/lang/Object;)Z"⟩

theorem safe_getClassLoader (fine : machine.area.WellFormed) (site : CallSite) :
    Safe (getClassLoader site) machine where
  sound := sound_getClassLoader fun _ _ known => Machine.loads_home fine known _
  resumes {before dependency after later} deferred retains grounded := by
    rcases pending_of_getClassLoader deferred with ⟨id, mirrors, asked⟩
    have answered := retains.answer (Area.lookup?_of_load (load_of_pending asked).1)
    refine sound_getClassLoader fun other same known => ?_
    cases mirrors.symm.trans same
    exact Or.inr ⟨grounded, Option.isSome_iff_exists.2 ⟨dependency, answered⟩⟩

theorem safe_getConstantPool (fine : machine.area.WellFormed) (site : CallSite) :
    Safe (getConstantPool site) machine where
  sound := sound_getConstantPool (Machine.loads_boot fine _) _
  resumes {before dependency after later} deferred retains grounded := by
    have loads := (load_of_pending (pending_of_getConstantPool deferred)).1
    have answered := retains.answer (Area.lookup?_of_load loads)
    exact sound_getConstantPool
      (Or.inr ⟨grounded, Option.isSome_iff_exists.2 ⟨dependency, answered⟩⟩) site

/-- All built-in natives are safe in a well-formed machine, except for strange calls of
one of them. -/
theorem safe_builtin {key : MethodKey}
    (listed : (key, native) ∈ (builtins : List (MethodKey × Native ι)))
    (fine : machine.area.WellFormed)
    (familiar : ¬ (key = instanceMethod ∧ site.Strange machine)) : Safe (native site) machine := by
  rcases conforms_builtin listed with ⟨_, _, _, prompt⟩
  -- A native that is never put off need not be dispatched again.
  have once (sound : Invocation.Sound ⟨machine, .empty⟩ (native site) Outcome.Known)
      (completes : key ∉ waitingMethods) : Safe (native site) machine :=
    ⟨sound, fun deferred _ _ => by cases prompt completes site _ _ _ deferred⟩
  cases builtin_of_listed listed with
  | getClass => exact once (sound_getClass fine site) (by decide)
  | registerNatives => exact once (.pure (by rintro _ ⟨⟩)) (by decide)
  | getPrimitiveClass => exact once (sound_getPrimitiveClass fine site) (by decide)
  | desiredAssertionStatus => exact once (sound_answer _) (by decide)
  | getClassLoader => exact safe_getClassLoader fine site
  | getComponentType =>
    exact once (sound_answerReference Machine.sound_componentType fine site) (by decide)
  | getConstantPool => exact safe_getConstantPool fine site
  | getDeclaringClass =>
    exact once (sound_answerReference Machine.sound_declaringClass fine site) (by decide)
  | getEnclosingMethod =>
    exact once (sound_answerReference Machine.sound_enclosingMethod fine site) (by decide)
  | getInterfaces =>
    exact once (sound_answerReference
      (fun fine known => .map some (Machine.sound_interfaces fine known)) fine site) (by decide)
  | getModifiers => exact once (sound_answerDescriptor _ site) (by decide)
  | getName =>
    exact once (sound_answerReference
      (fun fine known => .map some (Machine.sound_nameText fine known)) fine site) (by decide)
  | getSuperclass =>
    exact once (sound_answerReference Machine.sound_superclass fine site) (by decide)
  | isArray => exact once (sound_answerDescriptor _ site) (by decide)
  | isAssignableFrom => exact once (sound_isAssignableFrom fine site) (by decide)
  | isInstance =>
    exact once (sound_isInstance fine fun strange => familiar ⟨rfl, strange⟩) (by decide)
  | isInterface => exact once (sound_answerDescriptor _ site) (by decide)
  | isPrimitive => exact once (sound_answerDescriptor _ site) (by decide)

/-- A strange call of the remaining one meets a handle that does not exist. -/
theorem isInstance_of_strange (honest : machine.Honest) (strange : site.Strange machine) :
    ∃ fault after, (isInstance site).outcome ⟨machine, .empty⟩ = (.error fault, after) ∧
      fault.dangles := by
  rcases strange with ⟨id, object, mirrors, known, read, unknown⟩
  rcases Machine.isAssignable_of_unknown honest unknown known with ⟨fault, after, failed, dangles⟩
  have received : (receiver site).outcome (Invocation.mk machine .empty) =
      (.ok id, ⟨machine, .empty⟩) := outcome_receiver_known mirrors known
  have passed : (reference site 1).outcome (Invocation.mk machine .empty) =
      (.ok (some object), ⟨machine, .empty⟩) := by
    rw [reference, read]
    rfl
  have asked : (onMachine (Machine.isInstance (some object) id)).outcome
      (Invocation.mk machine .empty) = (.error fault, ⟨after, .empty⟩) := by
    rw [onMachine, Action.outcome_within]
    change (((Machine.isAssignable object.type id).outcome machine).1,
      Invocation.mk ((Machine.isAssignable object.type id).outcome machine).2 .empty) = _
    rw [failed]
  refine ⟨fault, ⟨after, .empty⟩, ?_, dangles⟩
  simp only [isInstance, Action.outcome_bind, received, passed, asked]

end Native
end ClassRuntime

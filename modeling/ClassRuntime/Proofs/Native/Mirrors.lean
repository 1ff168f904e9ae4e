import ClassRuntime.Proofs.Native.Conformance

namespace ClassRuntime

/-!
# Mirrors as arguments

Most natives of classes take a mirror as their receiver, and one of them takes
another mirror as its argument.  They look at a mirror for the class that it stands
for and at nothing else.  If the machine does not have this class, the native fails
before it has done anything.  If the machine has it, the native cannot tell one
mirror of the class from another.  A mirror that another machine has made is no
exception, since it is the handle alone that is looked up.
-/

/-- The same call with another object as one of its arguments. -/
def CallSite.withArgument (site : CallSite) (index : Nat) (object : Object) : CallSite :=
  { site with arguments := site.arguments.set index (.reference (some object)) }

namespace Native

variable {ι : Type} {native : Native ι} {site : CallSite} {object own : Object} {id : ClassId}
  {index place : Nat} {invocation : Invocation ι}

/-- The methods of classes that have no receiver. -/
def staticMethods : List MethodKey :=
  [⟨.mirror, "registerNatives", "()V"⟩,
    ⟨.mirror, "getPrimitiveClass", "(Ljava/lang/String;)Ljava/lang/Class;"⟩,
    ⟨.mirror, "desiredAssertionStatus0", "(Ljava/lang/Class;)Z"⟩]

/-- The method whose argument is a mirror as well. -/
def assignableMethod : MethodKey :=
  ⟨.mirror, "isAssignableFrom", "(Ljava/lang/Class;)Z"⟩

/-- The method expects a mirror in this place. -/
def ExpectsMirror (key : MethodKey) (index : Nat) : Prop :=
  key.owner = .mirror ∧ key ∉ staticMethods ∧ (index = 0 ∨ index = 1 ∧ key = assignableMethod)

/-- The native asks for its receiver before anything else.  From then on it may look
at the other arguments, but no longer at the receiver itself. -/
def Reflects (native : Native ι) : Prop :=
  ∃ rest : CallSite → ClassId → Action (Invocation ι) Outcome,
    (∀ site, native site = receiver site >>= rest site) ∧
      ∀ site object, rest (site.withArgument 0 object) = rest site

/-- How a native deals with a mirror in the given place.  For the receiver to be
looked at nothing is required; another argument is looked at if the receiver is in
order. -/
structure Recognizes (native : Native ι) (index : Nat) : Prop where
  same : ∀ {site object own id}, site.arguments.reference index = .ok (some object) →
    object.mirrored? = some id → own.mirrored? = some id →
      native (site.withArgument index own) = native site
  refuses : ∀ {site object machine}, site.arguments.reference index = .ok (some object) →
    mirroredHere machine object = none →
      (index ≠ 0 → ∃ id ∈ site.receiver?, (machine.area.class? id).isSome) →
        (native site).outcome ⟨machine, .empty⟩ =
          (.error (.error (malformed site .mirror)), ⟨machine, .empty⟩)

/-! ## Looking at arguments -/

theorem reference_withArgument (passed : site.arguments.reference index = .ok (some object)) :
    (site.withArgument index own).arguments.reference index = .ok (some own) := by
  have bounded : index < site.arguments.length := by
    by_contra outside
    rw [Arguments.reference, List.getElem?_eq_none (Nat.le_of_not_lt outside)] at passed
    cases passed
  rw [CallSite.withArgument, Arguments.reference, List.getElem?_set_self bounded]
  rfl

theorem reference_withArgument_of_ne (other : index ≠ place) :
    (site.withArgument index own).arguments.reference place = site.arguments.reference place := by
  rw [CallSite.withArgument, Arguments.reference, List.getElem?_set_ne other, List.length_set]
  rfl

theorem readReference_withArgument_of_ne (other : index ≠ place) :
    (reference (site.withArgument index own) place : Action (Invocation ι) Reference) =
      reference site place := by
  unfold reference
  rw [reference_withArgument_of_ne other]

theorem classArgument_withArgument_of_ne (other : index ≠ place) :
    (classArgument (site.withArgument index own) place : Action (Invocation ι) (Option ClassId)) =
      classArgument site place := by
  unfold classArgument
  rw [readReference_withArgument_of_ne other]
  rfl

theorem mirroredHere_congr {machine : Machine ι} (same : object.mirrored? = own.mirrored?) :
    mirroredHere machine object = mirroredHere machine own := by
  rw [mirroredHere, same, mirroredHere]

/-- What is done with a mirror depends on the class that it stands for. -/
theorem mirrored_withArgument (same : object.mirrored? = own.mirrored?) :
    (mirrored (site.withArgument index own) own : Action (Invocation ι) ClassId) =
      mirrored site object := by
  unfold mirrored
  exact congrArg _ (funext fun invocation => by
    rw [mirroredHere_congr same]
    rfl)

theorem outcome_mirrored_unknown (unknown : mirroredHere invocation.machine object = none) :
    (mirrored site object).outcome invocation =
      (.error (.error (malformed site .mirror)), invocation) := by
  rw [mirrored, Action.outcome_bind, Action.outcome_get]
  simp only [unknown]
  rfl

theorem receiver_of_reference (passed : site.arguments.reference 0 = .ok (some object)) :
    (receiver site : Action (Invocation ι) ClassId) = mirrored site object := by
  unfold receiver reference
  rw [passed]
  rfl

theorem receiver_withArgument (passed : site.arguments.reference 0 = .ok (some object))
    (same : object.mirrored? = own.mirrored?) :
    (receiver (site.withArgument 0 own) : Action (Invocation ι) ClassId) = receiver site := by
  rw [receiver_of_reference passed, receiver_of_reference (reference_withArgument passed)]
  exact mirrored_withArgument same

theorem receiver_withArgument_of_ne (other : index ≠ 0) :
    (receiver (site.withArgument index own) : Action (Invocation ι) ClassId) = receiver site := by
  unfold receiver
  rw [readReference_withArgument_of_ne other]
  rfl

/-- A class of the machine is found as the receiver. -/
theorem outcome_receiver_known (mirrors : site.receiver? = some id)
    (known : (invocation.machine.area.class? id).isSome) :
    (receiver site).outcome invocation = (.ok id, invocation) := by
  cases argument : site.arguments.reference 0 with
  | error cause =>
    rw [CallSite.receiver?, argument] at mirrors
    cases mirrors
  | ok target =>
    rw [CallSite.receiver?, argument] at mirrors
    cases target with
    | none => cases mirrors
    | some object =>
      have here : mirroredHere invocation.machine object = some id :=
        Option.filter_eq_some_iff.2 ⟨mirrors, known⟩
      rw [receiver_of_reference argument, mirrored, Action.outcome_bind, Action.outcome_get]
      simp only [here]
      rfl

theorem classArgument_of_reference (passed : site.arguments.reference index = .ok (some object)) :
    (classArgument site index : Action (Invocation ι) (Option ClassId)) =
      some <$> mirrored site object := by
  unfold classArgument reference
  rw [passed]
  rfl

/-! ## Natives with a receiver -/

theorem Reflects.recognizes (reflects : native.Reflects) : native.Recognizes 0 := by
  rcases reflects with ⟨rest, begins, blind⟩
  constructor
  · intro site object own id passed mirrors ownMirrors
    rw [begins, begins, receiver_withArgument passed (mirrors.trans ownMirrors.symm), blind]
  · intro site object machine passed unknown _
    rw [begins, Action.outcome_bind, receiver_of_reference passed, outcome_mirrored_unknown unknown]

theorem reflects_answerReference (question : ClassId → Action (Machine ι) Reference) :
    (answerReference question).Reflects :=
  ⟨_, fun _ => rfl, fun _ _ => rfl⟩

theorem reflects_answerDescriptor (question : TypeDescriptor → Value) :
    (answerDescriptor question : Native ι).Reflects :=
  ⟨_, fun _ => rfl, fun _ _ => rfl⟩

theorem reflects_getClassLoader : (getClassLoader : Native ι).Reflects :=
  ⟨_, fun _ => rfl, fun _ _ => rfl⟩

theorem reflects_getConstantPool : (getConstantPool : Native ι).Reflects :=
  ⟨_, fun _ => rfl, fun _ _ => rfl⟩

theorem reflects_isInstance : (isInstance : Native ι).Reflects := by
  refine ⟨_, fun site => rfl, fun site object => ?_⟩
  rw [readReference_withArgument_of_ne Nat.zero_ne_one]

theorem reflects_isAssignableFrom : (isAssignableFrom : Native ι).Reflects := by
  refine ⟨_, fun site => rfl, fun site object => ?_⟩
  rw [classArgument_withArgument_of_ne Nat.zero_ne_one]
  rfl

/-- The argument is looked at after the receiver, and in the same way. -/
theorem recognizes_isAssignableFrom : (isAssignableFrom : Native ι).Recognizes 1 := by
  constructor
  · intro site object own id passed mirrors ownMirrors
    unfold isAssignableFrom
    rw [receiver_withArgument_of_ne Nat.one_ne_zero, classArgument_of_reference passed,
      classArgument_of_reference (reference_withArgument passed),
      mirrored_withArgument (mirrors.trans ownMirrors.symm)]
    rfl
  · intro site object machine passed unknown valid
    rcases valid Nat.one_ne_zero with ⟨id, mirrors, known⟩
    have found : (receiver site).outcome (Invocation.mk machine .empty) =
        (.ok id, ⟨machine, .empty⟩) := outcome_receiver_known mirrors known
    have refused : (classArgument site 1).outcome (Invocation.mk machine .empty) =
        (.error (.error (malformed site .mirror)), ⟨machine, .empty⟩) := by
      rw [classArgument_of_reference passed, map_eq_pure_bind, Action.outcome_bind,
        outcome_mirrored_unknown unknown]
    rw [isAssignableFrom, Action.outcome_bind, found]
    dsimp only
    rw [Action.outcome_bind, refused]

theorem reflects_builtin {key : MethodKey}
    (listed : (key, native) ∈ (builtins : List (MethodKey × Native ι)))
    (owned : key.owner = .mirror) (dynamic : key ∉ staticMethods) : native.Reflects := by
  cases builtin_of_listed listed with
  | getClass => exact absurd owned (by decide)
  | registerNatives => exact absurd (by decide) dynamic
  | getPrimitiveClass => exact absurd (by decide) dynamic
  | desiredAssertionStatus => exact absurd (by decide) dynamic
  | getClassLoader => exact reflects_getClassLoader
  | getComponentType => exact reflects_answerReference _
  | getConstantPool => exact reflects_getConstantPool
  | getDeclaringClass => exact reflects_answerReference _
  | getEnclosingMethod => exact reflects_answerReference _
  | getInterfaces => exact reflects_answerReference _
  | getModifiers => exact reflects_answerDescriptor _
  | getName => exact reflects_answerReference _
  | getSuperclass => exact reflects_answerReference _
  | isArray => exact reflects_answerDescriptor _
  | isAssignableFrom => exact reflects_isAssignableFrom
  | isInstance => exact reflects_isInstance
  | isInterface => exact reflects_answerDescriptor _
  | isPrimitive => exact reflects_answerDescriptor _

/-- All natives that expect a mirror recognize it by its class. -/
theorem recognizes_builtin {key : MethodKey}
    (listed : (key, native) ∈ (builtins : List (MethodKey × Native ι)))
    (expects : ExpectsMirror key index) : native.Recognizes index := by
  rcases expects with ⟨owned, dynamic, rfl | ⟨rfl, rfl⟩⟩
  · exact (reflects_builtin listed owned dynamic).recognizes
  · have only : native = isAssignableFrom := by
      simpa [builtins, declared, assignableMethod] using listed
    rw [only]
    exact recognizes_isAssignableFrom

end Native
end ClassRuntime

import ClassRuntime.Proofs.Execution.ForeignMirrors
import ClassRuntime.Proofs.Execution.Inquiry
import ClassRuntime.Proofs.Machine.Places
import ClassRuntime.Proofs.Machine.Safety
import ClassRuntime.Proofs.Native.Safety

namespace ClassRuntime

/-!
# Arguments that are rejected

A native of classes expects the mirror of a class of its machine as its receiver.
What it gets may be anything: nothing at all, a number, null, a string, an array,
an object that stands for something else than a class, or a mirror of a class that
the machine does not have.  Which of these it is decides the error.  All these
natives look at the receiver first, so that a call which is rejected has not begun
to do anything: it has been counted, and that is all.

Two methods look at another argument next.  One of them expects a second mirror.
The other one takes any reference.
-/

namespace Arguments

/-- What is wrong with an argument that is expected to be a reference. -/
def slotFlaw? (arguments : Arguments) (index : Nat) : Option RuntimeError :=
  match arguments[index]? with
  | none => some (.slotOutOfRange index arguments.length)
  | some (.reference _) => none
  | some _ => some (.slotTypeMismatch index "reference")

/-- What is wrong with an argument of the method that is expected to be the mirror
of a class of the area.  The error for null is given. -/
def mirrorFlaw? {ι : Type} (arguments : Arguments) (area : Area ι) (method : String)
    (null : RuntimeError) (index : Nat) : Option RuntimeError :=
  match arguments[index]? with
  | none => some (.slotOutOfRange index arguments.length)
  | some (.reference none) => some null
  | some (.reference (some object)) =>
    match object.subject? with
    | some (.mirror id) =>
      if (area.class? id).isSome then none else some (.malformedReceiver method ClassName.mirror)
    | _ => some (.malformedReceiver method ClassName.mirror)
  | some _ => some (.slotTypeMismatch index "reference")

section Reading

variable {arguments : Arguments} {index : Nat} {cause : RuntimeError}

theorem reference_of_slotFlaw (flaw : arguments.slotFlaw? index = some cause) :
    arguments.reference index = .error cause := by
  unfold slotFlaw? at flaw
  unfold reference
  cases held : arguments[index]? with
  | none =>
    rw [held] at flaw
    cases flaw
    rfl
  | some value =>
    rw [held] at flaw
    cases value <;> cases flaw <;> rfl

variable {ι : Type} {area : Area ι} {method : String} {null : RuntimeError}

/-- An argument that is flawed cannot be read, is null, or refers to an object that
is not the mirror of a class of the area. -/
theorem flaw_cases (flaw : arguments.mirrorFlaw? area method null index = some cause) :
    arguments.reference index = .error cause ∨
      arguments.reference index = .ok none ∧ cause = null ∨
      ∃ object, arguments.reference index = .ok (some object) ∧
        object.mirrored?.filter (fun id => (area.class? id).isSome) = none ∧
        cause = .malformedReceiver method ClassName.mirror := by
  unfold mirrorFlaw? at flaw
  unfold reference
  cases held : arguments[index]? with
  | none =>
    rw [held] at flaw
    cases flaw
    exact Or.inl rfl
  | some value =>
    rw [held] at flaw
    cases value with
    | reference target =>
      right
      cases target with
      | none =>
        cases flaw
        exact Or.inl ⟨rfl, rfl⟩
      | some object =>
        refine Or.inr ⟨object, rfl, ?_⟩
        dsimp only at flaw
        rw [Object.mirrored?]
        cases stands : object.subject? with
        | none =>
          rw [stands] at flaw
          cases flaw
          exact ⟨rfl, rfl⟩
        | some subject =>
          rw [stands] at flaw
          cases subject with
          | mirror id =>
            dsimp only at flaw
            by_cases known : (area.class? id).isSome
            · rw [if_pos known] at flaw
              cases flaw
            · rw [if_neg known] at flaw
              cases flaw
              exact ⟨Option.filter_some_neg (eq_false_of_ne_true known), rfl⟩
          | _ =>
            cases flaw
            exact ⟨rfl, rfl⟩
    | _ =>
      cases flaw
      exact Or.inl rfl

theorem mirrored_of_sound (sound : arguments.mirrorFlaw? area method null index = none) :
    ∃ object id, arguments.reference index = .ok (some object) ∧ object.mirrored? = some id ∧
      (area.class? id).isSome := by
  unfold mirrorFlaw? at sound
  unfold reference
  cases held : arguments[index]? with
  | none =>
    rw [held] at sound
    cases sound
  | some value =>
    rw [held] at sound
    cases value with
    | reference target =>
      cases target with
      | none => cases sound
      | some object =>
        dsimp only at sound
        split at sound
        next id stands =>
          split at sound
          next known => exact ⟨object, id, rfl, by rw [Object.mirrored?, stands], known⟩
          next => cases sound
        next => cases sound
    | _ => cases sound

end Reading

end Arguments

namespace Native

variable {ι : Type} {native : Native ι} {site : CallSite} {invocation : Invocation ι} {index : Nat}
  {cause : RuntimeError}

theorem outcome_reference (site : CallSite) (index : Nat) (invocation : Invocation ι) :
    (reference site index).outcome invocation =
      ((site.arguments.reference index).mapError .error, invocation) :=
  Action.outcome_ofExcept _ _

theorem outcome_receiver_flawed (flaw : site.arguments.mirrorFlaw? invocation.machine.area
    site.method.text (.nullReceiver site.method.text) 0 = some cause) :
    (receiver site).outcome invocation = (.error (.error cause), invocation) := by
  rcases Arguments.flaw_cases flaw with unread | ⟨null, rfl⟩ | ⟨object, passed, unknown, rfl⟩
  · rw [receiver, Action.outcome_bind, outcome_reference, unread]
    rfl
  · rw [receiver, Action.outcome_bind, outcome_reference, null]
    rfl
  · rw [receiver_of_reference passed]
    exact outcome_mirrored_unknown unknown

theorem outcome_receiver_sound {null : RuntimeError}
    (sound : site.arguments.mirrorFlaw? invocation.machine.area site.method.text null 0 = none) :
    ∃ id, (receiver site).outcome invocation = (.ok id, invocation) ∧
      (invocation.machine.area.class? id).isSome := by
  rcases Arguments.mirrored_of_sound sound with ⟨object, id, passed, mirrors, known⟩
  refine ⟨id, outcome_receiver_known ?_ known, known⟩
  rw [CallSite.receiver?, passed]
  exact mirrors

theorem Reflects.outcome_flawed (reflects : native.Reflects)
    (flaw : site.arguments.mirrorFlaw? invocation.machine.area site.method.text
      (.nullReceiver site.method.text) 0 = some cause) :
    (native site).outcome invocation = (.error (.error cause), invocation) := by
  rcases reflects with ⟨rest, begins, _⟩
  rw [begins, Action.outcome_bind, outcome_receiver_flawed flaw]

theorem outcome_isAssignableFrom_flawed {null : RuntimeError}
    (sound : site.arguments.mirrorFlaw? invocation.machine.area site.method.text null 0 = none)
    (flaw : site.arguments.mirrorFlaw? invocation.machine.area site.method.text
      (.nullPointer site.method.text) 1 = some cause) :
    (isAssignableFrom site).outcome invocation = (.error (.error cause), invocation) := by
  rcases outcome_receiver_sound sound with ⟨id, received, _⟩
  rw [isAssignableFrom, Action.outcome_bind, received]
  dsimp only
  rcases Arguments.flaw_cases flaw with unread | ⟨null, rfl⟩ | ⟨object, passed, unknown, rfl⟩
  · rw [Action.outcome_bind, classArgument, Action.outcome_bind, outcome_reference, unread]
    rfl
  · rw [Action.outcome_bind, classArgument, Action.outcome_bind, outcome_reference, null]
    rfl
  · rw [Action.outcome_bind, classArgument_of_reference passed, map_eq_pure_bind,
      Action.outcome_bind, outcome_mirrored_unknown unknown]
    rfl

/-- Reading the other argument is all that can be refused. -/
theorem outcome_isInstance_flawed {null : RuntimeError}
    (sound : site.arguments.mirrorFlaw? invocation.machine.area site.method.text null 0 = none)
    (flaw : site.arguments.slotFlaw? 1 = some cause) :
    (isInstance site).outcome invocation = (.error (.error cause), invocation) := by
  rcases outcome_receiver_sound sound with ⟨id, received, _⟩
  rw [isInstance, Action.outcome_bind, received]
  dsimp only
  rw [Action.outcome_bind, outcome_reference, Arguments.reference_of_slotFlaw flaw]
  rfl

/-- Whether the object is an instance is answered if its class is known.  If the
class is not known, the question has no answer. -/
theorem outcome_isInstance_sound (site : CallSite) (invocation : Invocation ι)
    (honest : invocation.machine.Honest) (grounded : invocation.machine.area.Grounded) {null : RuntimeError}
    (sound : site.arguments.mirrorFlaw? invocation.machine.area site.method.text null 0 = none)
    {target : Reference} (passed : site.arguments.reference 1 = .ok target) :
    (∃ answer after, (isInstance site).outcome invocation =
      (.ok .complete, ⟨after, invocation.operands.push (.ofBool answer)⟩)) ∨
    (∃ object, target = some object ∧ invocation.machine.area.class? object.type = none) ∧
      ∃ fault after, (isInstance site).outcome invocation = (.error fault, after) ∧
        fault.dangles := by
  rcases outcome_receiver_sound sound with ⟨id, received, known⟩
  have begins : (isInstance site).outcome invocation =
      (onMachine (Machine.isInstance target id) >>= fun result =>
        answer (.ofBool result)).outcome invocation := by
    rw [isInstance, Action.outcome_bind, received]
    dsimp only
    rw [Action.outcome_bind, outcome_reference, passed]
    rfl
  rw [begins, Action.outcome_bind]
  cases target with
  | none => exact Or.inl ⟨false, invocation.machine, rfl⟩
  | some object =>
    have asked : (onMachine (Machine.isInstance (some object) id)).outcome invocation =
        (((Machine.isAssignable object.type id).outcome invocation.machine).1,
          { invocation with
            machine := ((Machine.isAssignable object.type id).outcome invocation.machine).2 }) :=
      rfl
    rw [asked]
    cases there : invocation.machine.area.class? object.type with
    | none =>
      rcases Machine.isAssignable_of_unknown honest there known with
        ⟨fault, after, failed, dangles⟩
      rw [failed]
      exact Or.inr ⟨⟨object, rfl, there⟩, fault, _, rfl, dangles⟩
    | some loaded =>
      left
      have proper : Question.Proper ⟨invocation.machine, object.type, id⟩ :=
        ⟨Option.isSome_iff_exists.2 ⟨loaded, there⟩, known⟩
      rcases proper.decided grounded with ⟨answer, decided⟩
      have answered : (Question.mk invocation.machine object.type id).answer = .ok answer :=
        (Question.answer_eq honest).trans decided
      rcases ended : (Machine.isAssignable object.type id).outcome invocation.machine with
        ⟨result, after⟩
      rw [Question.answer, ended] at answered
      dsimp only at answered
      rw [answered]
      exact ⟨answer, after, rfl⟩

end Native

namespace Executor

variable {ι σ : Type} {key : MethodKey} {native : Native ι}

/-- The methods in question are fourteen. -/
example : (((Native.builtins : List (MethodKey × Native Unit)).map Prod.fst).filter fun key =>
    key.owner = .mirror ∧ key ∉ Native.staticMethods).length = 14 := by
  decide

/-- Each native of classes that has a receiver rejects what is not the mirror of a
class of the machine, with the error that tells what is wrong, and so does the one
that expects another mirror.  The one that takes any reference rejects nothing but
what is no reference; null and the objects of known classes have an answer.  After
a rejected call everything is as before, except that its dispatch is counted. -/
theorem invoke_rejects (executor : Executor ι σ) (holds : executor.registry.HoldsBuiltins)
    (enough : 0 < executor.limit)
    (listed : (key, native) ∈ (Native.builtins : List (MethodKey × Native ι)))
    (owned : key.owner = .mirror) (dynamic : key ∉ Native.staticMethods)
    (thread : ThreadId) (arguments : Arguments) {session : Session ι σ}
    (reachable : session.machine.Reachable) :
    let flaw? := arguments.mirrorFlaw? session.machine.area key.text
    let result := (executor.invoke thread key arguments).outcome session
    let Rejected (cause : RuntimeError) :=
      result = (.error (.error cause), session.counted Metrics.countDispatch)
    (∀ cause, flaw? (.nullReceiver key.text) 0 = some cause → Rejected cause) ∧
    (flaw? (.nullReceiver key.text) 0 = none →
      (key = Native.assignableMethod →
        ∀ cause, flaw? (.nullPointer key.text) 1 = some cause → Rejected cause) ∧
      (key = Native.instanceMethod →
        (∀ cause, arguments.slotFlaw? 1 = some cause → Rejected cause) ∧
        ∀ target, arguments[1]? = some (.reference target) →
          (∀ cause, result.1 ≠ .error (.error cause)) ∧
          ((∀ object ∈ target, (session.machine.area.class? object.type).isSome) →
            ∃ answer, result.1 = .ok (some (.ofBool answer))))) := by
  intro flaw? result Rejected
  rcases holds key native listed with ⟨descriptor, _, registered⟩
  have rejected (cause : RuntimeError) (failed : (native ⟨thread, key, arguments, 0⟩).outcome
      ⟨(session.counted Metrics.countDispatch).machine, .empty⟩ = (.error (.error cause),
        ⟨(session.counted Metrics.countDispatch).machine, .empty⟩)) : Rejected cause :=
    executor.outcome_invoke_of_error registered enough failed
  refine ⟨fun cause flaw => rejected cause ?_, fun sound => ⟨?_, ?_⟩⟩
  · exact (Native.reflects_builtin listed owned dynamic).outcome_flawed flaw
  · rintro rfl cause flaw
    have only : native = Native.isAssignableFrom := by
      simpa [Native.builtins, Native.declared, Native.assignableMethod] using listed
    subst only
    exact rejected cause (Native.outcome_isAssignableFrom_flawed sound flaw)
  · rintro rfl
    have only : native = Native.isInstance := by
      simpa [Native.builtins, Native.declared, Native.instanceMethod] using listed
    subst only
    refine ⟨fun cause flaw => rejected cause (Native.outcome_isInstance_flawed sound flaw), ?_⟩
    intro target held
    have passed : arguments.reference 1 = .ok target := by
      rw [Arguments.reference, held]
      rfl
    rcases Native.outcome_isInstance_sound ⟨thread, Native.instanceMethod, arguments, 0⟩
        ⟨(session.counted Metrics.countDispatch).machine, .empty⟩
        reachable.honest reachable.grounded sound passed with
      ⟨answer, after, answered⟩ | ⟨⟨object, rfl, unknown⟩, fault, after, failed, dangles⟩
    · have ended : result = _ := executor.outcome_invoke_of_answer holds listed enough answered
      rw [ended]
      constructor
      · rintro cause ⟨⟩
      · exact fun _ => ⟨answer, rfl⟩
    · have ended : result = _ := executor.outcome_invoke_of_error registered enough failed
      rw [ended]
      constructor
      · rintro cause ⟨⟩
        cases dangles
      · intro known
        cases (congrArg Option.isSome unknown).symm.trans (known object rfl)

/-- The case of a loader handle in the place of a receiver, and of null behind a
receiver that is in order. -/
theorem invoke_rejects_null :
    let key := Native.assignableMethod
    let root : ClassDefinition Unit := .ordinary .object
    let definitions := [{ root with superName := none }, .ordinary .mirror,
      .ordinary .loaderHandle]
    let after {α : Type} (request : Request Unit α) (machine : Machine Unit) :=
      (request.perform.outcome machine).2
    let machine := after (.handle .bootstrap) (after (.mirror ⟨.bootstrap, 0⟩)
      (.initial 0 definitions))
    let session : Session Unit Unit := ⟨machine, ()⟩
    let handle : Reference := machine.area.kept? (.handle .bootstrap)
    let mirror : Reference := machine.area.kept? (.mirror ⟨.bootstrap, 0⟩)
    machine.Reachable ∧ handle.isSome ∧ mirror.isSome ∧
      (plain.invoke ⟨1⟩ key [.reference handle, .null]).outcome session =
        (.error (.error (.malformedReceiver key.text ClassName.mirror)),
          session.counted Metrics.countDispatch) ∧
      (plain.invoke ⟨1⟩ key [.reference mirror, .null]).outcome session =
        (.error (.error (.nullPointer key.text)), session.counted Metrics.countDispatch) := by
  intro key root definitions after machine session handle mirror
  have reachable : session.machine.Reachable :=
    ((Machine.reachable_initial 0 definitions).perform (.mirror ⟨.bootstrap, 0⟩)).perform
      (.handle .bootstrap)
  have listed : (key, Native.isAssignableFrom) ∈
      (Native.builtins : List (MethodKey × Native Unit)) := by
    simp [Native.builtins, Native.declared, key, Native.assignableMethod]
  have rejects (arguments : Arguments) :=
    plain.invoke_rejects Native.holds_builtinRegistry (by decide) listed rfl (by decide) ⟨1⟩
      arguments reachable
  exact ⟨reachable, by decide +kernel, by decide +kernel, (rejects _).1 _ (by decide +kernel),
    ((rejects _).2 (by decide +kernel)).1 rfl _ (by decide +kernel)⟩

end Executor
end ClassRuntime

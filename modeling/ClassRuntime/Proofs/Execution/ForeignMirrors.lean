import ClassRuntime.Proofs.Execution.Course
import ClassRuntime.Proofs.Machine.Mirrors
import ClassRuntime.Proofs.Native.Mirrors

namespace ClassRuntime

/-!
# Mirrors of other machines

Nothing prevents a program of one machine from being handed a mirror that another
machine has made.  A native that expects a mirror refuses it if the handle is not
one that its own machine has given out.  But handles are numbers, which all
machines count from zero.  If there happens to be a class behind the handle, the
native takes the mirror for that of this class.
-/

variable {ι σ : Type}

namespace Call

variable {initClass : InitClass ι σ} {entry : RegistryEntry (Native ι)} {site : CallSite}
  {index : Nat} {own : Object}

/-- A native that does the same for another argument makes the same call. -/
theorem complete_withArgument
    (same : entry.handler (site.withArgument index own) = entry.handler site) (limit : Nat)
    (awaited : List ClassId) :
    complete initClass entry (site.withArgument index own) limit awaited =
      complete initClass entry site limit awaited := by
  induction limit generalizing awaited with
  | zero => rfl
  | succ limit inductiveStep =>
    have dispatches : (dispatch entry (site.withArgument index own) : Action (Call ι σ) Outcome) =
        dispatch entry site := by
      unfold dispatch
      rw [same]
    unfold complete
    rw [dispatches]
    refine congrArg _ (funext fun outcome => ?_)
    cases outcome with
    | complete => rfl
    | deferred dependency =>
      change (await initClass site awaited dependency >>= fun _ => _) =
        (await initClass site awaited dependency >>= fun _ => _)
      rw [inductiveStep]

end Call

namespace Executor

variable {executor : Executor ι σ} {key : MethodKey} {native : Native ι} {index : Nat}
  {thread : ThreadId} {arguments : Arguments} {object own : Object} {id : ClassId}

/-- Two mirrors of one class make no difference to a call. -/
theorem outcome_invoke_mirror (holds : executor.registry.HoldsBuiltins)
    (listed : (key, native) ∈ (Native.builtins : List (MethodKey × Native ι)))
    (expects : Native.ExpectsMirror key index)
    (passed : arguments.reference index = .ok (some object)) (mirrors : object.mirrored? = some id)
    (ownMirrors : own.mirrored? = some id) (session : Session ι σ) :
    (executor.invoke thread key (arguments.set index (.reference (some own)))).outcome session =
      (executor.invoke thread key arguments).outcome session := by
  rcases holds key native listed with ⟨descriptor, _, registered⟩
  let site : CallSite := ⟨thread, key, arguments, 0⟩
  have same : native (site.withArgument index own) = native site :=
    (Native.recognizes_builtin listed expects).same passed mirrors ownMirrors
  have completes : Call.complete executor.initClass ⟨native, descriptor⟩
      (site.withArgument index own) executor.limit [] = _ :=
    Call.complete_withArgument same executor.limit []
  rw [executor.outcome_invoke registered (congrFun completes _),
    executor.outcome_invoke registered rfl]

/-- A native that expects a mirror refuses it if the machine does not have the class,
and nothing happens but that its dispatch is counted. -/
theorem outcome_invoke_unknown (holds : executor.registry.HoldsBuiltins)
    (enough : 0 < executor.limit)
    (listed : (key, native) ∈ (Native.builtins : List (MethodKey × Native ι)))
    (expects : Native.ExpectsMirror key index)
    (passed : arguments.reference index = .ok (some object)) (mirrors : object.mirrored? = some id)
    {session : Session ι σ} (unknown : session.machine.area.class? id = none)
    (valid : index ≠ 0 → ∃ target ∈ (CallSite.mk thread key arguments 0).receiver?,
      (session.machine.area.class? target).isSome) :
    (executor.invoke thread key arguments).outcome session =
      (.error (.error (.malformedReceiver key.text ClassName.mirror)),
        session.counted Metrics.countDispatch) := by
  rcases holds key native listed with ⟨descriptor, _, registered⟩
  have elsewhere : Native.mirroredHere session.machine object = none := by
    rw [Native.mirroredHere, mirrors, Option.filter_some, unknown]
    rfl
  exact executor.outcome_invoke_of_error registered enough
    ((Native.recognizes_builtin listed expects).refuses passed elsewhere valid)

/-- A mirror that any machine has made of a class, passed where a native expects a
mirror, is refused if the machine of the call has no class of this handle.  If it has
one, the call is the same as with the mirror that it has made of that class itself. -/
theorem invoke_foreign_mirror (executor : Executor ι σ) (holds : executor.registry.HoldsBuiltins)
    (enough : 0 < executor.limit)
    (listed : (key, native) ∈ (Native.builtins : List (MethodKey × Native ι)))
    (expects : Native.ExpectsMirror key index) {maker made : Machine ι}
    (reachable : maker.Reachable) {mirror : Object}
    (making : (Machine.mirrorOf id).outcome maker = (.ok mirror, made))
    (passed : arguments.reference index = .ok (some mirror)) {session : Session ι σ}
    (reachableHere : session.machine.Reachable)
    (valid : index ≠ 0 → ∃ target ∈ (CallSite.mk thread key arguments 0).receiver?,
      (session.machine.area.class? target).isSome) :
    (session.machine.area.class? id = none →
      (executor.invoke thread key arguments).outcome session =
        (.error (.error (.malformedReceiver key.text ClassName.mirror)),
          session.counted Metrics.countDispatch)) ∧
    ∀ own after, (Machine.mirrorOf id).outcome session.machine = (.ok own, after) →
      ∀ later : Session ι σ,
        (executor.invoke thread key arguments).outcome later =
          (executor.invoke thread key (arguments.set index (.reference (some own)))).outcome
            later := by
  have mirrors := reachable.mirrored?_of_mirrorOf making
  constructor
  · intro unknown
    exact outcome_invoke_unknown holds enough listed expects passed mirrors unknown valid
  · intro own after makes later
    have ownMirrors := reachableHere.mirrored?_of_mirrorOf makes
    exact (outcome_invoke_mirror holds listed expects passed mirrors ownMirrors later).symm

/-- An executor with the built-in natives alone. -/
def plain : Executor Unit Unit where
  registry := Native.builtinRegistry
  initClass := Initialization.initClass ⟨fun _ _ _ _ => pure (.ok ())⟩ 0
  limit := 2

/-- The case of a mirror whose handle has been given out by its own machine alone. -/
theorem invoke_foreign_mirror_unknown :
    let root : ClassDefinition Unit := { ClassDefinition.ordinary .object with superName := none }
    let here : Machine Unit := .initial 0 []
    let maker := ((Machine.load .bootstrap .object).outcome
      (.initial 1 [root, .ordinary .mirror])).2
    let key : MethodKey := ⟨.mirror, "getName0", "()Ljava/lang/String;"⟩
    here.Reachable ∧ maker.Reachable ∧ ∃ mirror made,
      (Machine.mirrorOf ⟨.bootstrap, 9⟩).outcome maker = (.ok mirror, made) ∧
      (plain.invoke ⟨1⟩ key [.reference (some mirror)]).outcome ⟨here, ()⟩ =
        (.error (.error (.malformedReceiver key.text ClassName.mirror)),
          (⟨here, ()⟩ : Session Unit Unit).counted Metrics.countDispatch) := by
  intro root here maker key
  have reachableHere : here.Reachable := Machine.reachable_initial 0 []
  have reachable : maker.Reachable :=
    (Machine.reachable_initial 1 _).perform (.load .bootstrap .object)
  have granted : ((Machine.mirrorOf ⟨.bootstrap, 9⟩).outcome maker).1.toOption.isSome := by
    decide +kernel
  rcases making : (Machine.mirrorOf ⟨.bootstrap, 9⟩).outcome maker with ⟨fault | mirror, made⟩
  · rw [making] at granted
    cases granted
  · have listed : (key, Native.getName) ∈ (Native.builtins : List (MethodKey × Native Unit)) := by
      simp [Native.builtins, Native.declared, key]
    have expects : Native.ExpectsMirror key 0 := ⟨rfl, by decide, Or.inl rfl⟩
    have passed : Arguments.reference [.reference (some mirror)] 0 = .ok (some mirror) := rfl
    have unknown : here.area.class? ⟨.bootstrap, 9⟩ = none := by decide +kernel
    exact ⟨reachableHere, reachable, mirror, made, rfl,
      (plain.invoke_foreign_mirror Native.holds_builtinRegistry (by decide) listed expects reachable
        making passed reachableHere fun other => absurd rfl other).1 unknown⟩

/-- A mirror of a class that its machine calls by another name is taken for that of
the root. -/
theorem foreign_mirror_accepted :
    let root : ClassDefinition Unit := { ClassDefinition.ordinary .object with superName := none }
    let secret : ClassDefinition Unit :=
      { ClassDefinition.ordinary "com/example/Secret" with superName := none }
    let here := ((Machine.load .bootstrap .object).outcome
      (.initial 0 [root, .ordinary .string])).2
    let maker := ((Machine.load .bootstrap "com/example/Secret").outcome
      (.initial 1 [root, secret, .ordinary .mirror])).2
    let key : MethodKey := ⟨.mirror, "getName0", "()Ljava/lang/String;"⟩
    here.Reachable ∧ maker.Reachable ∧ here.number ≠ maker.number ∧ ∃ mirror made,
      (Machine.mirrorOf ⟨.bootstrap, 9⟩).outcome maker = (.ok mirror, made) ∧ ∃ name after,
        (plain.invoke ⟨1⟩ key [.reference (some mirror)]).outcome ⟨here, ()⟩ =
          (.ok (some (.reference (some name))), after) ∧
            name.content? = some "java.lang.Object" := by
  intro root secret here maker key
  have reachableHere : here.Reachable :=
    (Machine.reachable_initial 0 _).perform (.load .bootstrap .object)
  have reachable : maker.Reachable :=
    (Machine.reachable_initial 1 _).perform (.load .bootstrap "com/example/Secret")
  have granted : ((Machine.mirrorOf ⟨.bootstrap, 9⟩).outcome maker).1.toOption.isSome := by
    decide +kernel
  rcases making : (Machine.mirrorOf ⟨.bootstrap, 9⟩).outcome maker with ⟨fault | mirror, made⟩
  · rw [making] at granted
    cases granted
  · -- Another mirror of the class, for which the answer can be computed, makes the same call.
    let own : Object := .plain ⟨0, 0⟩ ⟨.bootstrap, 0⟩ (some (.mirror ⟨.bootstrap, 9⟩))
    have computed : ((plain.invoke ⟨1⟩ key [.reference (some own)]).outcome
        ⟨here, ()⟩).1.toOption.join.bind (fun value => value.reference?.join.bind Object.content?) =
          some "java.lang.Object" := by
      decide +kernel
    have listed : (key, Native.getName) ∈ (Native.builtins : List (MethodKey × Native Unit)) := by
      simp [Native.builtins, Native.declared, key]
    have expects : Native.ExpectsMirror key 0 := ⟨rfl, by decide, Or.inl rfl⟩
    have passed : Arguments.reference [.reference (some mirror)] 0 = .ok (some mirror) := rfl
    have ownMirrors : own.mirrored? = some ⟨.bootstrap, 9⟩ := rfl
    have same : (plain.invoke ⟨1⟩ key [.reference (some own)]).outcome ⟨here, ()⟩ =
        (plain.invoke ⟨1⟩ key [.reference (some mirror)]).outcome ⟨here, ()⟩ :=
      outcome_invoke_mirror Native.holds_builtinRegistry listed expects passed
        (reachable.mirrored?_of_mirrorOf making) ownMirrors ⟨here, ()⟩
    rw [same] at computed
    rcases ended : (plain.invoke ⟨1⟩ key [.reference (some mirror)]).outcome ⟨here, ()⟩ with
      ⟨fault | value, after⟩
    · rw [ended] at computed
      cases computed
    rw [ended] at computed
    rcases Option.bind_eq_some_iff.1 computed with ⟨target, rfl, read⟩
    rcases Option.bind_eq_some_iff.1 read with ⟨name, referred, content⟩
    cases target with
    | reference reference =>
      cases referred
      exact ⟨reachableHere, reachable, by decide, mirror, made, rfl, name, after, ended, content⟩
    | _ => cases referred

end Executor
end ClassRuntime

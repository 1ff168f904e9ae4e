import ClassRuntime.Proofs.Execution.Course
import ClassRuntime.Proofs.Execution.Readiness
import ClassRuntime.Proofs.Machine.Mirrors
import ClassRuntime.Proofs.Native.Conformance

namespace ClassRuntime

/-!
# Calls of built-in natives

The built-in natives keep the protocol, so that no call blames them.  They are
dispatched once, or twice if they have been put off: the class for which a call
has waited is ready then, and the same question does not put the native off
again.  What the initializer of that class has done in the meantime does not
matter, even if it has called the same native.
-/

theorem FieldType.category_ne_void (type : FieldType) : type.category ≠ .void := by
  cases type with
  | base base => cases base <;> simp [category, BaseType.category]
  | object name => simp [category]
  | array component => simp [category]

namespace MethodDescriptor

variable {descriptor : MethodDescriptor}

theorem returns_nothing (void : descriptor.resultCategory = .void) : descriptor.Returns #[] := by
  unfold Returns
  unfold resultCategory at void
  cases result : descriptor.result with
  | none => rfl
  | some type =>
    rw [result] at void
    exact absurd void type.category_ne_void

theorem returns_value {value : Value} (fits : value.category = descriptor.resultCategory) :
    descriptor.Returns #[value] := by
  unfold Returns
  unfold resultCategory at fits
  cases result : descriptor.result with
  | none =>
    rw [result] at fits
    cases value <;> cases fits
  | some type =>
    rw [result] at fits
    exact ⟨value, rfl, fits⟩

end MethodDescriptor

namespace Dispatch

variable {ι σ : Type} {entry : RegistryEntry (Native ι)}

/-- The native has been put off. -/
def isDeferred (dispatch : Dispatch ι σ) : Bool :=
  match dispatch.decision with
  | .ok (.deferred _) => true
  | _ => false

/-- A native that keeps the protocol lets the call come to a verdict that does
not blame it, or is put off as it should be. -/
theorem of_conforms
    (conforms : entry.handler.Conforms entry.descriptor.resultCategory) (site : CallSite)
    (call : Call ι σ) (awaited : List ClassId) :
    (∃ result, (of entry site call).Ends entry.descriptor site.method.text awaited result ∧
      FailsFairly result ∧ (of entry site call).isDeferred = false) ∨
    ∃ dependency, (of entry site call).decision = .ok (.deferred dependency) ∧
      (of entry site call).left.operands = ⟨#[], true⟩ := by
  have ended := outcome_of entry site call
  cases decided : (of entry site call).decision with
  | error fault =>
    rw [decided] at ended
    have fair := conforms.fair site _ fault (congrArg Prod.fst ended)
    exact Or.inl ⟨_, .failed decided, .error fair, by rw [isDeferred, decided]⟩
  | ok outcome =>
    rw [decided] at ended
    have concludes := conforms.concludes site _ outcome _ ended
    dsimp only at concludes
    generalize left : (of entry site call).left.operands = operands at concludes
    cases concludes with
    | nothing void =>
      refine Or.inl ⟨_, .completed decided ?_, .ok _, by rw [isDeferred, decided]⟩
      rw [left]
      exact MethodDescriptor.returns_nothing void
    | value fits =>
      refine Or.inl ⟨_, .completed decided ?_, .ok _, by rw [isDeferred, decided]⟩
      rw [left]
      exact MethodDescriptor.returns_value fits
    | deferred dependency => exact Or.inr ⟨dependency, rfl, rfl⟩

end Dispatch

/-- The call of a native that keeps the protocol comes to a verdict after at most
two dispatches, of which at most one has been put off. -/
theorem Course.of_conforms {ι σ : Type} {initClass : InitClass ι σ} (reliable : Reliable initClass)
    {entry : RegistryEntry (Native ι)}
    (conforms : entry.handler.Conforms entry.descriptor.resultCategory) (site : CallSite)
    (call : Call ι σ) :
    ∃ dispatches result after, Course initClass entry site [] call dispatches (some result) after ∧
      dispatches.length ≤ 2 ∧ dispatches.countP Dispatch.isDeferred ≤ 1 ∧
      FailsFairly result := by
  rcases Dispatch.of_conforms conforms site call [] with
    ⟨result, ends, fair, prompt⟩ | ⟨dependency, decided, left⟩
  · exact ⟨_, result, _, .ended ends, by simp, List.countP_le_length, fair⟩
  · have waits : (Dispatch.of entry site call).Waits [] dependency :=
      ⟨decided, left, List.not_mem_nil⟩
    rcases initialized : (initClass site.thread dependency).outcome
      ((Dispatch.of entry site call).left.session.counted Metrics.countDeferral) with
      ⟨fault | value, session⟩
    · have fair := reliable.fair _ _ _ fault (congrArg Prod.fst initialized)
      exact ⟨_, _, _, .abandoned waits initialized, by simp, List.countP_le_length, .error fair⟩
    · -- The second dispatch finds the class for which the call has waited.
      have became := (reliable.becomes site.thread dependency).related initialized
      have retained := Machine.Becomes.retains became
      have started := (reliable.readies initialized).started
      rcases Dispatch.of_conforms conforms site
          { (Dispatch.of entry site call).left with session } [dependency] with
        ⟨result, ends, fair, prompt⟩ | ⟨other, again, _⟩
      · refine ⟨_, result, _, .resumed waits initialized (.ended ends), by simp, ?_, fair⟩
        rw [List.countP_cons, List.countP_singleton, prompt, if_neg Bool.false_ne_true,
          Nat.zero_add]
        split
        · exact Nat.le_refl 1
        · exact Nat.zero_le 1
      · have first := Dispatch.outcome_of entry site call
        rw [decided] at first
        have second := Dispatch.outcome_of entry site
          { (Dispatch.of entry site call).left with session }
        rw [again] at second
        exact absurd second (conforms.asks.once first retained started)

/-- A native that is never put off when it finds no operands is not put off in
any dispatch of a call. -/
theorem Course.prompt {ι σ : Type} {initClass : InitClass ι σ} {entry : RegistryEntry (Native ι)}
    {site : CallSite} {awaited : List ClassId} {call after : Call ι σ}
    {dispatches : List (Dispatch ι σ)} {verdict : Option (Except Fault Unit)}
    (course : Course initClass entry site awaited call dispatches verdict after)
    (completes : Native.Leads (fun outcome _ => outcome = .complete) (entry.handler site))
    {dispatch : Dispatch ι σ} (made : dispatch ∈ dispatches) : dispatch.isDeferred = false := by
  rcases course.dispatched made with ⟨before, rfl⟩
  have ended := Dispatch.outcome_of entry site before
  unfold Dispatch.isDeferred
  split
  next dependency decided =>
    rw [decided] at ended
    cases completes _ _ _ ended
  next => rfl

namespace Setting

variable {ι σ : Type}

/-- The course that the call of a built-in native takes. -/
theorem course_of_builtin (setting : Setting ι σ) (holds : setting.registry.HoldsBuiltins)
    {key : MethodKey} {native : Native ι}
    (listed : (key, native) ∈ (Native.builtins : List (MethodKey × Native ι))) (depth : Nat)
    (thread : ThreadId) (arguments : Arguments) (session : Session ι (Recorded ι σ)) :
    let executor := setting.executor (Initialization.initClass setting.host depth)
    let site : CallSite := ⟨thread, key, arguments, 0⟩
    ∃ entry dispatches result call, executor.registry.lookup key = .ok entry ∧
      entry.handler = native ∧
      Course executor.initClass entry site [] ⟨session, .empty⟩ dispatches (some result) call ∧
      dispatches.length ≤ 2 ∧ dispatches.countP Dispatch.isDeferred ≤ 1 ∧ FailsFairly result ∧
      (2 ≤ setting.limit → (executor.invoke thread key arguments).outcome session =
        (result.map fun _ => call.operands.stack.back?, call.session)) := by
  intro executor site
  rcases holds key native listed with ⟨descriptor, read, registered⟩
  rcases Native.conforms_builtin listed with ⟨category, parsed, conforms, _⟩
  rw [read] at parsed
  cases parsed
  let entry : RegistryEntry (Native ι) := ⟨native, descriptor⟩
  have keeps : entry.handler.Conforms entry.descriptor.resultCategory := conforms
  have reliable : Reliable executor.initClass := reliable_executor (reliable_initClass depth)
  rcases Course.of_conforms reliable keeps site ⟨session, .empty⟩ with
    ⟨dispatches, result, call, course, short, once, fair⟩
  refine ⟨entry, dispatches, result, call, registered, rfl, course, short, once, fair, ?_⟩
  intro enough
  exact executor.outcome_invoke registered
    (course.outcome_complete rfl (Nat.le_trans short enough))

/-- Every call of a built-in native comes to a verdict after at most two
dispatches, of which at most one has been put off, and that only if the method
is one of two.  No verdict blames the native.  This is so for all arguments, in
every session, and for all initializers. -/
theorem builtin_contract (setting : Setting ι σ) (holds : setting.registry.HoldsBuiltins)
    {key : MethodKey} {native : Native ι}
    (listed : (key, native) ∈ (Native.builtins : List (MethodKey × Native ι))) (depth : Nat)
    (thread : ThreadId) (arguments : Arguments) (session : Session ι (Recorded ι σ)) :
    let executor := setting.executor (Initialization.initClass setting.host depth)
    let site : CallSite := ⟨thread, key, arguments, 0⟩
    ∃ entry dispatches result call, executor.registry.lookup key = .ok entry ∧
      entry.handler = native ∧
      Course executor.initClass entry site [] ⟨session, .empty⟩ dispatches (some result) call ∧
      dispatches.length ≤ 2 ∧ dispatches.countP Dispatch.isDeferred ≤ 1 ∧
      (∀ dispatch ∈ dispatches, dispatch.isDeferred → key ∈ Native.waitingMethods) ∧
      (∀ cause, result = .error (.error cause) → cause.isBreach = false) ∧
      (2 ≤ setting.limit → (executor.invoke thread key arguments).outcome session =
        (result.map fun _ => call.operands.stack.back?, call.session)) := by
  intro executor site
  rcases setting.course_of_builtin holds listed depth thread arguments session with
    ⟨entry, dispatches, result, call, registered, same, course, short, once, fair, ended⟩
  refine ⟨entry, dispatches, result, call, registered, same, course, short, once, ?_, ?_, ended⟩
  · intro dispatch made deferred
    by_contra other
    rcases Native.conforms_builtin listed with ⟨_, _, _, completes⟩
    rw [← same] at completes
    rw [course.prompt (completes other site) made] at deferred
    cases deferred
  · intro cause failed
    exact fair _ failed cause rfl

/-- A class whose initializer calls the native that has been put off for it. -/
def reentrant : Setting Unit Unit where
  registry := Native.builtinRegistry
  lawful := Native.lawful_builtinRegistry
  program _ _ _ :=
    .operate (.request (.mirror ⟨.bootstrap, 0⟩)) fun answer =>
      match answer with
      | .ok mirror =>
        .operate (.invoke ⟨.mirror, "getConstantPool", "()Lsun/reflect/ConstantPool;"⟩
          [.reference (some mirror)]) fun _ => .finish (.ok ())
      | .error _ => .finish (.ok ())
  limit := 2

/-- The case of that class.  Of the three dispatches one is made by the
initializer, and only the first is put off. -/
theorem builtin_contract_reentrant :
    let key : MethodKey := ⟨.mirror, "getConstantPool", "()Lsun/reflect/ConstantPool;"⟩
    let root : ClassDefinition Unit := .ordinary .object
    let pool : ClassDefinition Unit := .ordinary .constantPool
    let definitions := [{ root with superName := none }, .ordinary .mirror,
      { pool with initializer := some () }]
    let machine := ((Machine.mirrorOf ⟨.bootstrap, 0⟩).outcome (.initial 0 definitions)).2
    let session : Session Unit (Recorded Unit Unit) := ⟨machine, ⟨(), []⟩⟩
    let mirror : Reference := machine.area.mirror? ⟨.bootstrap, 0⟩
    let arguments : Arguments := [.reference mirror]
    let site : CallSite := ⟨⟨1⟩, key, arguments, 0⟩
    let executor := reentrant.executor (Initialization.initClass reentrant.host 1)
    mirror.isSome ∧ reentrant.registry.HoldsBuiltins ∧ ∃ entry dispatches result call,
      Course executor.initClass entry site [] ⟨session, .empty⟩ dispatches (some result) call ∧
      dispatches.length ≤ 2 ∧ dispatches.countP Dispatch.isDeferred ≤ 1 ∧
      (executor.invoke ⟨1⟩ key arguments).outcome session =
        (result.map fun _ => call.operands.stack.back?, call.session) ∧
      call.session.machine.metrics.nativeDispatches = 3 ∧
      call.session.machine.metrics.deferredDependencies = 1 := by
  intro key root pool definitions machine session mirror arguments site executor
  have holds : reentrant.registry.HoldsBuiltins := Native.holds_builtinRegistry
  have listed : (key, Native.getConstantPool) ∈
      (Native.builtins : List (MethodKey × Native Unit)) := by
    simp [Native.builtins, Native.declared, key]
  have counts : ((executor.invoke ⟨1⟩ key arguments).outcome session).2.machine.metrics =
      { Metrics.zero with
        nativeDispatches := 3
        deferredDependencies := 1
        staticInitializersRun := 1
        mirrorsCreated := 1
        poolsCreated := 1 } := by
    decide +kernel
  rcases reentrant.builtin_contract holds listed 1 ⟨1⟩ arguments session with
    ⟨entry, dispatches, result, call, _, _, course, short, once, _, _, invoked⟩
  have ended := invoked (Nat.le_refl 2)
  rw [ended] at counts
  exact ⟨by decide +kernel, holds, entry, dispatches, result, call, course, short, once, ended,
    congrArg Metrics.nativeDispatches counts, congrArg Metrics.deferredDependencies counts⟩

end Setting
end ClassRuntime

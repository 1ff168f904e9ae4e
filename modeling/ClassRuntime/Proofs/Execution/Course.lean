import ClassRuntime.Execution.Invocation
import ClassRuntime.Proofs.Loader.Views

namespace ClassRuntime

/-!
# The course of a call

Natives are not trusted.  What a native may do to the operands and to the
machine is not restricted at all, and how it decides to end a dispatch may
depend on everything that has happened before.  The protocol between a call and
its native is therefore the matter of the call.

The course of a call is the list of its dispatches.  After each one the call
comes to a verdict, or it waits for a class and goes on with another dispatch.
This is written down here case by case, without the limit on the number of
dispatches that calls have, and shown to be what calls do.  A course without a
verdict is one that has been followed up to some point.
-/

/-- The results that a descriptor promises: none if the method has no result,
and otherwise one value of the category of the result. -/
def MethodDescriptor.Returns (descriptor : MethodDescriptor) (stack : Array Value) : Prop :=
  match descriptor.result with
  | none => stack = #[]
  | some type => ∃ value, stack = #[value] ∧ value.category = type.category

/-- The session with a counter advanced. -/
def Session.counted {ι σ : Type} (advance : Metrics → Metrics) (session : Session ι σ) :
    Session ι σ :=
  { session with machine :=
    { session.machine with metrics := advance session.machine.metrics } }

/-- One dispatch of a native: the call as the native finds it, how the native
decides, and the call as it leaves it. -/
structure Dispatch (ι σ : Type) where
  entered : Call ι σ
  decision : Except Fault Outcome
  left : Call ι σ

namespace Dispatch

variable {ι σ : Type}

/-- The dispatch that a call makes.  It is counted, and the native finds no
operands, whatever the last dispatch has left. -/
def of (entry : RegistryEntry (Native ι)) (site : CallSite) (call : Call ι σ) : Dispatch ι σ :=
  let session := call.session.counted Metrics.countDispatch
  let (decision, after) := (entry.handler site).outcome ⟨session.machine, .empty⟩
  { entered := ⟨session, .empty⟩
    decision
    left := ⟨{ session with machine := after.machine }, after.operands⟩ }

theorem outcome_of (entry : RegistryEntry (Native ι)) (site : CallSite) (call : Call ι σ) :
    (entry.handler site).outcome
        ⟨(call.session.counted Metrics.countDispatch).machine, .empty⟩ =
      ((of entry site call).decision,
        ⟨(of entry site call).left.session.machine, (of entry site call).left.operands⟩) :=
  rfl

/-- The verdict to which a call comes after a dispatch, given the classes for
which it has waited before. -/
inductive Ends (descriptor : MethodDescriptor) (method : String) (awaited : List ClassId)
    (dispatch : Dispatch ι σ) : Except Fault Unit → Prop
  | failed {fault : Fault} (decided : dispatch.decision = .error fault) :
      Ends descriptor method awaited dispatch (.error fault)
  | completed (decided : dispatch.decision = .ok .complete)
      (returns : descriptor.Returns dispatch.left.operands.stack) :
      Ends descriptor method awaited dispatch (.ok ())
  | miscounted (decided : dispatch.decision = .ok .complete)
      (differs : dispatch.left.operands.stack.size ≠ descriptor.resultCount) :
      Ends descriptor method awaited dispatch (.error (.error (.resultMismatch method
        dispatch.left.operands.stack.size descriptor.resultCount)))
  | mistyped {value : Value} {type : FieldType} (decided : dispatch.decision = .ok .complete)
      (pushed : dispatch.left.operands.stack = #[value]) (result : descriptor.result = some type)
      (differs : value.category ≠ type.category) :
      Ends descriptor method awaited dispatch (.error (.error (.resultTypeMismatch method
        value.category type.category)))
  | laden {dependency : ClassId} (decided : dispatch.decision = .ok (.deferred dependency))
      (pushed : dispatch.left.operands.stack ≠ #[]) :
      Ends descriptor method awaited dispatch (.error (.error (.resultMismatch method
        dispatch.left.operands.stack.size 0)))
  | unrewound {dependency : ClassId} (decided : dispatch.decision = .ok (.deferred dependency))
      (left : dispatch.left.operands = ⟨#[], false⟩) :
      Ends descriptor method awaited dispatch (.error (.error (.deferredWithoutRewind method)))
  | stalled {dependency : ClassId} {loaded : LoadedClass ι}
      (decided : dispatch.decision = .ok (.deferred dependency))
      (left : dispatch.left.operands = ⟨#[], true⟩) (again : dependency ∈ awaited)
      (found : dispatch.left.session.machine.area.class? dependency = some loaded) :
      Ends descriptor method awaited dispatch (.error (.error (.initializationStalled method
        loaded.name)))
  /-- A native is expected to name classes that are there. -/
  | lost {dependency : ClassId} {fault : Fault}
      (decided : dispatch.decision = .ok (.deferred dependency))
      (left : dispatch.left.operands = ⟨#[], true⟩) (again : dependency ∈ awaited)
      (unknown : dispatch.left.session.machine.area.loadedClass dependency = .error fault) :
      Ends descriptor method awaited dispatch (.error fault)

/-- The native is put off as it should be, for a class for which the call has
not waited before. -/
structure Waits (awaited : List ClassId) (dispatch : Dispatch ι σ) (dependency : ClassId) :
    Prop where
  decided : dispatch.decision = .ok (.deferred dependency)
  left : dispatch.left.operands = ⟨#[], true⟩
  fresh : dependency ∉ awaited

end Dispatch

/-- The course of a call that has waited for some classes already: its
dispatches, the verdict if there is one, and the call in the end. -/
inductive Course {ι σ : Type} (initClass : InitClass ι σ) (entry : RegistryEntry (Native ι))
    (site : CallSite) :
    List ClassId → Call ι σ → List (Dispatch ι σ) → Option (Except Fault Unit) → Call ι σ → Prop
  | pending {awaited : List ClassId} {call : Call ι σ} :
      Course initClass entry site awaited call [] none call
  | ended {awaited : List ClassId} {call : Call ι σ} {verdict : Except Fault Unit}
      (ends : (Dispatch.of entry site call).Ends entry.descriptor site.method.text awaited
        verdict) :
      Course initClass entry site awaited call [.of entry site call] (some verdict)
        (Dispatch.of entry site call).left
  | abandoned {awaited : List ClassId} {call : Call ι σ} {dependency : ClassId} {fault : Fault}
      {session : Session ι σ} (waits : (Dispatch.of entry site call).Waits awaited dependency)
      (failed : (initClass site.thread dependency).outcome
        ((Dispatch.of entry site call).left.session.counted Metrics.countDeferral) =
          (.error fault, session)) :
      Course initClass entry site awaited call [.of entry site call] (some (.error fault))
        { (Dispatch.of entry site call).left with session }
  | resumed {awaited : List ClassId} {call after : Call ι σ} {dependency : ClassId}
      {session : Session ι σ} {dispatches : List (Dispatch ι σ)}
      {verdict : Option (Except Fault Unit)}
      (waits : (Dispatch.of entry site call).Waits awaited dependency)
      (initialized : (initClass site.thread dependency).outcome
        ((Dispatch.of entry site call).left.session.counted Metrics.countDeferral) =
          (.ok (), session))
      (rest : Course initClass entry site (dependency :: awaited)
        { (Dispatch.of entry site call).left with session } dispatches verdict after) :
      Course initClass entry site awaited call (.of entry site call :: dispatches) verdict after

/-! ## The checks after a dispatch -/

namespace Call

variable {ι σ : Type}

theorem resultFlaw?_eq_none {descriptor : MethodDescriptor} {stack : Array Value}
    (returns : descriptor.Returns stack) (method : String) :
    resultFlaw? descriptor method stack = none := by
  unfold MethodDescriptor.Returns at returns
  cases result : descriptor.result with
  | none =>
    rw [result] at returns
    subst returns
    simp [resultFlaw?, MethodDescriptor.resultCount, result]
  | some type =>
    rw [result] at returns
    rcases returns with ⟨value, rfl, fits⟩
    simp [resultFlaw?, MethodDescriptor.resultCount, MethodDescriptor.resultCategory, result, fits]

theorem resultFlaw?_of_size {descriptor : MethodDescriptor} {stack : Array Value}
    (differs : stack.size ≠ descriptor.resultCount) (method : String) :
    resultFlaw? descriptor method stack =
      some (.resultMismatch method stack.size descriptor.resultCount) :=
  if_pos differs

theorem resultFlaw?_of_category {descriptor : MethodDescriptor} {type : FieldType} {value : Value}
    (result : descriptor.result = some type) (differs : value.category ≠ type.category)
    (method : String) : resultFlaw? descriptor method #[value] =
      some (.resultTypeMismatch method value.category type.category) := by
  simp [resultFlaw?, MethodDescriptor.resultCount, MethodDescriptor.resultCategory, result, differs]

/-- What a native leaves when it is complete is right, or there are too few or
too many results, or the one result is of the wrong category. -/
theorem returns_or (descriptor : MethodDescriptor) (stack : Array Value) :
    descriptor.Returns stack ∨ stack.size ≠ descriptor.resultCount ∨
      ∃ value type, stack = #[value] ∧ descriptor.result = some type ∧
        value.category ≠ type.category := by
  cases result : descriptor.result with
  | none =>
    by_cases empty : stack = #[]
    · exact Or.inl (by simp [MethodDescriptor.Returns, result, empty])
    · refine Or.inr (Or.inl ?_)
      simpa [MethodDescriptor.resultCount, result] using empty
  | some type =>
    by_cases single : stack.size = 1
    · rcases Array.size_eq_one_iff.1 single with ⟨value, rfl⟩
      by_cases fits : value.category = type.category
      · exact Or.inl (by simp [MethodDescriptor.Returns, result, fits])
      · exact Or.inr (Or.inr ⟨value, type, rfl, rfl, fits⟩)
    · exact Or.inr (Or.inl (by simpa [MethodDescriptor.resultCount, result] using single))

theorem outcome_dispatch (entry : RegistryEntry (Native ι)) (site : CallSite) (call : Call ι σ) :
    (dispatch entry site).outcome call =
      ((Dispatch.of entry site call).decision, (Dispatch.of entry site call).left) :=
  rfl

end Call

/-- After every dispatch the call comes to a verdict or waits for a class. -/
theorem Dispatch.ends_or_waits {ι σ : Type} (dispatch : Dispatch ι σ)
    (descriptor : MethodDescriptor) (method : String) (awaited : List ClassId) :
    (∃ verdict, dispatch.Ends descriptor method awaited verdict) ∨
      ∃ dependency, dispatch.Waits awaited dependency := by
  cases decided : dispatch.decision with
  | error fault => exact Or.inl ⟨_, .failed decided⟩
  | ok outcome =>
    cases outcome with
    | complete =>
      left
      rcases Call.returns_or descriptor dispatch.left.operands.stack with
        returns | differs | ⟨value, type, pushed, result, differs⟩
      · exact ⟨_, .completed decided returns⟩
      · exact ⟨_, .miscounted decided differs⟩
      · exact ⟨_, .mistyped decided pushed result differs⟩
    | deferred dependency =>
      rcases operands : dispatch.left.operands with ⟨stack, rewound⟩
      by_cases empty : stack = #[]
      · subst empty
        cases rewound with
        | false => exact Or.inl ⟨_, .unrewound decided operands⟩
        | true =>
          by_cases again : dependency ∈ awaited
          · left
            cases read : dispatch.left.session.machine.area.loadedClass dependency with
            | error fault => exact ⟨_, .lost decided operands again read⟩
            | ok loaded =>
              exact ⟨_, .stalled decided operands again (Area.class?_of_loadedClass read)⟩
          · exact Or.inr ⟨dependency, decided, operands, again⟩
      · exact Or.inl ⟨_, .laden decided (by rwa [operands])⟩

/-! ## Calls take their course -/

section Complete

variable {ι σ : Type} {initClass : InitClass ι σ} {entry : RegistryEntry (Native ι)}
  {site : CallSite} {awaited : List ClassId} {call after : Call ι σ}

namespace Call

/-! ### Waiting -/

section Await

variable {dependency : ClassId}

theorem outcome_await_flawed {cause : RuntimeError}
    (flaw : deferralFlaw? site.method.text call.operands = some cause) :
    (await initClass site awaited dependency).outcome call = (.error (.error cause), call) := by
  rw [await, Action.outcome_bind, Action.outcome_get]
  simp only [flaw]
  rfl

theorem outcome_await_again (left : call.operands = ⟨#[], true⟩) (again : dependency ∈ awaited) :
    (await initClass site awaited dependency).outcome call =
      match call.session.machine.area.loadedClass dependency with
      | .ok loaded =>
        (.error (.error (.initializationStalled site.method.text loaded.name)), call)
      | .error fault => (.error fault, call) := by
  have looked : (onMachine (Machine.getClass dependency)).outcome call =
      (call.session.machine.area.loadedClass dependency, call) := by
    rw [onMachine, onSession, Session.onMachine, Machine.getClass, Machine.onArea]
    simp only [Action.outcome_within, Area.outcome_getClass]
    rfl
  have fine : deferralFlaw? site.method.text call.operands = none := by
    rw [left]
    rfl
  rw [await, Action.outcome_bind, Action.outcome_get]
  simp only [fine, if_pos again, refuse, Action.outcome_bind, Action.outcome_pure, looked]
  cases call.session.machine.area.loadedClass dependency with
  | error fault => rfl
  | ok loaded => rfl

theorem outcome_await_fresh (left : call.operands = ⟨#[], true⟩) (fresh : dependency ∉ awaited) :
    (await initClass site awaited dependency).outcome call =
      (((initClass site.thread dependency).outcome
          (call.session.counted Metrics.countDeferral)).1,
        { call with session := ((initClass site.thread dependency).outcome
          (call.session.counted Metrics.countDeferral)).2 }) := by
  have fine : deferralFlaw? site.method.text call.operands = none := by
    rw [left]
    rfl
  rw [await, Action.outcome_bind, Action.outcome_get]
  simp only [fine, if_neg fresh, refuse, Action.outcome_bind, Action.outcome_pure]
  rfl

end Await

/-! ### One dispatch and what follows -/

theorem outcome_complete_of_ends {verdict : Except Fault Unit}
    (ends : (Dispatch.of entry site call).Ends entry.descriptor site.method.text awaited verdict)
    (limit : Nat) : (complete initClass entry site (limit + 1) awaited).outcome call =
      (verdict, (Dispatch.of entry site call).left) := by
  rw [complete, Action.outcome_bind, outcome_dispatch]
  cases ends with
  | failed decided => rw [decided]
  | completed decided returns =>
    simp only [decided, Action.outcome_bind, Action.outcome_get, resultFlaw?_eq_none returns]
    rfl
  | miscounted decided differs =>
    simp only [decided, Action.outcome_bind, Action.outcome_get, resultFlaw?_of_size differs]
    rfl
  | mistyped decided pushed result differs =>
    simp only [decided, Action.outcome_bind, Action.outcome_get, pushed,
      resultFlaw?_of_category result differs]
    rfl
  | laden decided pushed =>
    have flaw : deferralFlaw? site.method.text (Dispatch.of entry site call).left.operands =
        some (.resultMismatch site.method.text
          (Dispatch.of entry site call).left.operands.stack.size 0) :=
      if_pos (mt Array.size_eq_zero_iff.1 pushed)
    simp only [decided, Action.outcome_bind, outcome_await_flawed flaw]
  | unrewound decided left =>
    have flaw : deferralFlaw? site.method.text (Dispatch.of entry site call).left.operands =
        some (.deferredWithoutRewind site.method.text) := by
      rw [left]
      rfl
    simp only [decided, Action.outcome_bind, outcome_await_flawed flaw]
  | stalled decided left again found =>
    simp only [decided, Action.outcome_bind, outcome_await_again left again,
      Area.loadedClass_eq_ok found]
  | lost decided left again unknown =>
    simp only [decided, Action.outcome_bind, outcome_await_again left again, unknown]

theorem outcome_complete_of_waits {dependency : ClassId}
    (waits : (Dispatch.of entry site call).Waits awaited dependency) (limit : Nat) :
    (complete initClass entry site (limit + 1) awaited).outcome call =
      match (initClass site.thread dependency).outcome
        ((Dispatch.of entry site call).left.session.counted Metrics.countDeferral) with
      | (.ok (), session) =>
        (complete initClass entry site limit (dependency :: awaited)).outcome
          { (Dispatch.of entry site call).left with session }
      | (.error fault, session) =>
        (.error fault, { (Dispatch.of entry site call).left with session }) := by
  rw [complete, Action.outcome_bind, outcome_dispatch]
  simp only [waits.decided, Action.outcome_bind, outcome_await_fresh waits.left waits.fresh]
  rcases (initClass site.thread dependency).outcome
    ((Dispatch.of entry site call).left.session.counted Metrics.countDeferral) with
    ⟨fault | value, session⟩
  · rfl
  · rfl

/-- Within its limit, a call takes its course. -/
theorem course_of_complete (initClass : InitClass ι σ) (entry : RegistryEntry (Native ι))
    (site : CallSite) (limit : Nat) (awaited : List ClassId) (call : Call ι σ) :
    ∃ dispatches verdict after, Course initClass entry site awaited call dispatches verdict after ∧
      dispatches.length ≤ limit ∧ (verdict = none → dispatches.length = limit) ∧
      (complete initClass entry site limit awaited).outcome call =
        (verdict.getD (.error .exhausted), after) := by
  induction limit generalizing awaited call with
  | zero => exact ⟨[], none, call, .pending, Nat.le_refl 0, fun _ => rfl, rfl⟩
  | succ limit inductiveStep =>
    rcases (Dispatch.of entry site call).ends_or_waits entry.descriptor site.method.text awaited
      with ⟨verdict, ends⟩ | ⟨dependency, waits⟩
    · exact ⟨_, _, _, .ended ends, Nat.succ_le_succ (Nat.zero_le _), by simp,
        outcome_complete_of_ends ends limit⟩
    · rcases initialized : (initClass site.thread dependency).outcome
        ((Dispatch.of entry site call).left.session.counted Metrics.countDeferral) with
        ⟨fault | value, session⟩
      · refine ⟨_, _, _, .abandoned waits initialized, Nat.succ_le_succ (Nat.zero_le _), by simp,
          ?_⟩
        rw [outcome_complete_of_waits waits, initialized]
        rfl
      · rcases inductiveStep (dependency :: awaited)
            { (Dispatch.of entry site call).left with session } with
          ⟨dispatches, verdict, after, course, short, unfinished, ended⟩
        refine ⟨_, verdict, after, .resumed waits initialized course, Nat.succ_le_succ short,
          fun none => congrArg Nat.succ (unfinished none), ?_⟩
        rw [outcome_complete_of_waits waits, initialized]
        exact ended

/-- A call that is in order ends with its first dispatch, unless this one is put off. -/
theorem completed_of_prompt {limit : Nat}
    (prompt : ∀ dependency, (Dispatch.of entry site call).decision ≠ .ok (.deferred dependency))
    (ended : (complete initClass entry site limit awaited).outcome call = (.ok (), after)) :
    (Dispatch.of entry site call).decision = .ok .complete ∧
      after = (Dispatch.of entry site call).left := by
  rcases course_of_complete initClass entry site limit awaited call with
    ⟨dispatches, verdict, last, course, _, _, settled⟩
  rw [ended, Prod.mk.injEq] at settled
  rcases settled with ⟨fine, rfl⟩
  cases course with
  | pending => cases fine
  | ended ends =>
    cases fine
    cases ends with
    | completed decided => exact ⟨decided, rfl⟩
  | abandoned => cases fine
  | resumed waits => exact absurd waits.decided (prompt _)

end Call

/-- A course that has come to a verdict is the one that the call takes, unless
its limit is too low. -/
theorem Course.outcome_complete {dispatches : List (Dispatch ι σ)}
    {verdict : Option (Except Fault Unit)} {result : Except Fault Unit}
    (course : Course initClass entry site awaited call dispatches verdict after)
    (settled : verdict = some result) {limit : Nat} (enough : dispatches.length ≤ limit) :
    (Call.complete initClass entry site limit awaited).outcome call = (result, after) := by
  induction course generalizing limit with
  | pending => cases settled
  | ended ends =>
    cases settled
    cases limit with
    | zero => exact absurd enough (Nat.not_succ_le_zero _)
    | succ limit => exact Call.outcome_complete_of_ends ends limit
  | abandoned waits failed =>
    cases settled
    cases limit with
    | zero => exact absurd enough (Nat.not_succ_le_zero _)
    | succ limit => rw [Call.outcome_complete_of_waits waits, failed]
  | resumed waits initialized _ inductiveStep =>
    cases limit with
    | zero => exact absurd enough (Nat.not_succ_le_zero _)
    | succ limit =>
      rw [Call.outcome_complete_of_waits waits, initialized]
      exact inductiveStep settled (Nat.le_of_succ_le_succ enough)

/-- Every dispatch is one of the native of the call, and made from a call in
the same way. -/
theorem Course.dispatched {dispatches : List (Dispatch ι σ)}
    {verdict : Option (Except Fault Unit)}
    (course : Course initClass entry site awaited call dispatches verdict after)
    {dispatch : Dispatch ι σ} (made : dispatch ∈ dispatches) :
    ∃ before, dispatch = .of entry site before := by
  induction course with
  | pending => cases made
  | ended | abandoned => exact ⟨_, List.mem_singleton.1 made⟩
  | resumed _ _ _ inductiveStep =>
    rcases List.mem_cons.1 made with rfl | later
    · exact ⟨_, rfl⟩
    · exact inductiveStep later

end Complete

namespace Executor

variable {ι σ : Type} {entry : RegistryEntry (Native ι)} {session : Session ι σ}
  {result : Except Fault Unit} {call : Call ι σ} {thread : ThreadId} {method : MethodKey}

/-- The result of a call in a frame is that of dispatching the native until it is
complete. -/
theorem outcome_invokeIn (executor : Executor ι σ)
    (registered : executor.registry.lookup method = .ok entry) {frame : Frame}
    (completed : (Call.complete executor.initClass entry
      ⟨thread, method, frame.arguments, frame.place⟩ executor.limit []).outcome
        ⟨session, frame.operands⟩ = (result, call)) :
    (executor.invokeIn thread method frame).outcome session =
      (.ok (result, { frame with operands := call.operands }), call.session) := by
  unfold invokeIn
  rw [registered]
  exact congrArg (fun completed : Except Fault Unit × Call ι σ =>
    (Except.ok (completed.1, { frame with operands := completed.2.operands }),
      completed.2.session)) completed

theorem outcome_invoke (executor : Executor ι σ)
    (registered : executor.registry.lookup method = .ok entry) {arguments : Arguments}
    (completed : (Call.complete executor.initClass entry ⟨thread, method, arguments, 0⟩
      executor.limit []).outcome ⟨session, .empty⟩ = (result, call)) :
    (executor.invoke thread method arguments).outcome session =
      (result.map fun _ => call.operands.stack.back?, call.session) := by
  have invoked : (executor.invokeIn thread method (.create arguments 0)).outcome session = _ :=
    executor.outcome_invokeIn registered completed
  rw [invoke, Action.outcome_bind, invoked]
  cases result with
  | error fault => rfl
  | ok value => rfl

/-- A native that fails when it is dispatched first fails the call. -/
theorem outcome_invoke_of_error (executor : Executor ι σ)
    (registered : executor.registry.lookup method = .ok entry) (enough : 0 < executor.limit)
    {arguments : Arguments} {fault : Fault} {after : Invocation ι}
    (failed : (entry.handler ⟨thread, method, arguments, 0⟩).outcome
      ⟨(session.counted Metrics.countDispatch).machine, .empty⟩ = (.error fault, after)) :
    (executor.invoke thread method arguments).outcome session =
      (.error fault, { session with machine := after.machine }) := by
  let dispatch := Dispatch.of entry ⟨thread, method, arguments, 0⟩ ⟨session, .empty⟩
  have dispatched := failed.symm.trans (Dispatch.outcome_of entry _ ⟨session, .empty⟩)
  rw [Prod.mk.injEq] at dispatched
  have ends : dispatch.Ends entry.descriptor method.text [] (.error fault) :=
    .failed dispatched.1.symm
  have course : Course executor.initClass entry ⟨thread, method, arguments, 0⟩ []
      ⟨session, .empty⟩ [dispatch] (some (.error fault)) dispatch.left := .ended ends
  rw [executor.outcome_invoke registered (course.outcome_complete rfl enough), dispatched.2]
  rfl

end Executor

/-- Every call of a registered native takes its course.  Each of its dispatches
starts with an empty stack and a frame that is not rewound.  If the limit is high
enough, the call results in the verdict of the course; the arguments and the
place of its frame are never changed. -/
theorem Executor.invokeIn_course {ι σ : Type} (executor : Executor ι σ) (thread : ThreadId)
    (method : MethodKey) (frame : Frame) {entry : RegistryEntry (Native ι)}
    (registered : executor.registry.lookup method = .ok entry) (session : Session ι σ) :
    let site : CallSite := ⟨thread, method, frame.arguments, frame.place⟩
    let course := Course executor.initClass entry site [] ⟨session, frame.operands⟩
    (∃ dispatches verdict call, course dispatches verdict call ∧
      dispatches.length ≤ executor.limit ∧
      (verdict = none → dispatches.length = executor.limit) ∧
      (executor.invokeIn thread method frame).outcome session =
        (.ok (verdict.getD (.error .exhausted), { frame with operands := call.operands }),
          call.session)) ∧
    ∀ dispatches verdict call, course dispatches verdict call →
      (∀ dispatch ∈ dispatches, dispatch.entered.operands.stack = #[] ∧
        ({ frame with operands := dispatch.entered.operands } : Frame).next = frame.place + 1) ∧
      ∀ result, verdict = some result → dispatches.length ≤ executor.limit →
        (executor.invokeIn thread method frame).outcome session =
          (.ok (result, { frame with operands := call.operands }), call.session) := by
  intro site course
  constructor
  · rcases Call.course_of_complete executor.initClass entry site executor.limit []
      ⟨session, frame.operands⟩ with ⟨dispatches, verdict, call, taken, short, unfinished, ended⟩
    exact ⟨dispatches, verdict, call, taken, short, unfinished,
      executor.outcome_invokeIn registered ended⟩
  · intro dispatches verdict call taken
    constructor
    · intro dispatch made
      rcases taken.dispatched made with ⟨before, rfl⟩
      exact ⟨rfl, rfl⟩
    · intro result settled enough
      exact executor.outcome_invokeIn registered (taken.outcome_complete settled enough)

/-- The case of a native that is put off each time for the same class. -/
theorem Executor.invokeIn_course_stubborn :
    let dependency : ClassId := ⟨.bootstrap, 0⟩
    let method : MethodKey := ⟨"Stubborn", "wait", "()V"⟩
    let entry : RegistryEntry (Native Unit) := ⟨fun _ => Native.defer dependency, ⟨[], none⟩⟩
    let host : Host Unit Unit := ⟨fun _ _ _ _ => pure (.ok ())⟩
    let executor : Executor Unit Unit :=
      ⟨⟨.ofList [(method, entry)]⟩, Initialization.initClass host 0, 5⟩
    let frame : Frame := ⟨[.int 7], 3, ⟨#[.null], false⟩⟩
    executor.registry.lookup method = .ok entry ∧
      ∃ after, (executor.invokeIn ⟨1⟩ method frame).outcome ⟨.initial 0 [], ()⟩ =
        (.ok (.error (.error (.initializationStalled method.text "void")),
          { frame with operands := ⟨#[], true⟩ }), after) ∧
        after.machine.metrics.nativeDispatches = 2 ∧
        after.machine.metrics.deferredDependencies = 1 := by
  intro dependency method entry host executor frame
  have registered : executor.registry.lookup method = .ok entry := rfl
  let site : CallSite := ⟨⟨1⟩, method, frame.arguments, frame.place⟩
  let first : Dispatch Unit Unit := .of entry site ⟨⟨.initial 0 [], ()⟩, frame.operands⟩
  let middle := ((executor.initClass ⟨1⟩ dependency).outcome
    (first.left.session.counted Metrics.countDeferral)).2
  have initialized : (executor.initClass ⟨1⟩ dependency).outcome
      (first.left.session.counted Metrics.countDeferral) = (.ok (), middle) :=
    Prod.ext (by rfl) rfl
  have waits : first.Waits [] dependency := ⟨rfl, rfl, List.not_mem_nil⟩
  let loaded : LoadedClass Unit :=
    { LoadedClass.fresh (Loader.primitiveType .void) none with progress := .initialized }
  have stalls : (Dispatch.of entry site { first.left with session := middle }).Ends
      entry.descriptor method.text [dependency]
      (.error (.error (.initializationStalled method.text loaded.name))) :=
    .stalled rfl rfl (List.mem_singleton_self dependency) rfl
  have course := Course.resumed waits initialized (.ended stalls)
  refine ⟨registered, _, ((executor.invokeIn_course ⟨1⟩ method frame registered _).2 _ _ _
    course).2 _ rfl (by decide), ?_, ?_⟩
  · rfl
  · rfl

end ClassRuntime

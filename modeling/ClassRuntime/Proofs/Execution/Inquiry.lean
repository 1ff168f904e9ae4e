import ClassRuntime.Proofs.Execution.Contract
import ClassRuntime.Proofs.Native.Mirrors

namespace ClassRuntime

/-!
# Calls that put a question

Most natives of classes look up the class that their receiver mirrors, put a question
about it to the machine and hand on what they are told.  Seen from outside, the call of
such a native is this question: it is dispatched once, which is counted, and from then
on the machine and the result are those of the question.
-/

namespace Native

variable {ι α : Type} {id : ClassId}

/-- Put a question about the receiver to the machine, and answer with the value that
stands for the result. -/
def inquire (question : ClassId → Action (Machine ι) α) (value : α → Value) : Native ι :=
  fun site => do
    let id ← receiver site
    let result ← onMachine (question id)
    answer (value result)

theorem outcome_inquire (question : ClassId → Action (Machine ι) α) (value : α → Value)
    (site : CallSite) (invocation : Invocation ι)
    (mirrors : site.receiver? = some id) (known : (invocation.machine.area.class? id).isSome) :
    (inquire question value site).outcome invocation =
      match (question id).outcome invocation.machine with
      | (.ok result, after) => (.ok .complete, ⟨after, invocation.operands.push (value result)⟩)
      | (.error fault, after) => (.error fault, { invocation with machine := after }) := by
  have asked : (onMachine (question id)).outcome invocation =
      (((question id).outcome invocation.machine).1,
        { invocation with machine := ((question id).outcome invocation.machine).2 }) := rfl
  rw [inquire, Action.outcome_bind, outcome_receiver_known mirrors known]
  dsimp only
  rw [Action.outcome_bind, asked]
  rcases (question id).outcome invocation.machine with ⟨fault | result, after⟩
  · rfl
  · rfl

end Native

namespace Executor

variable {ι σ α : Type} {executor : Executor ι σ} {key : MethodKey} {native : Native ι}
  {thread : ThreadId} {session : Session ι σ}

/-- A built-in native that answers when it is dispatched first completes the call. -/
theorem outcome_invoke_of_answer (holds : executor.registry.HoldsBuiltins)
    (listed : (key, native) ∈ (Native.builtins : List (MethodKey × Native ι)))
    (enough : 0 < executor.limit) {arguments : Arguments} {value : Value} {after : Machine ι}
    (answered : (native ⟨thread, key, arguments, 0⟩).outcome
      ⟨(session.counted Metrics.countDispatch).machine, .empty⟩ =
        (.ok .complete, ⟨after, Operands.empty.push value⟩)) :
    (executor.invoke thread key arguments).outcome session =
      (.ok (some value), { session with machine := after }) := by
  rcases holds key native listed with ⟨descriptor, read, registered⟩
  rcases Native.conforms_builtin listed with ⟨category, parsed, conforms, _⟩
  rw [read] at parsed
  cases parsed
  have fits : value.category = descriptor.resultCategory := by
    have concludes := conforms.concludes _ _ _ _ answered
    generalize same : Operands.empty.push value = operands at concludes
    cases concludes with
    | nothing => cases same
    | value fits =>
      cases same
      exact fits
  let entry : RegistryEntry (Native ι) := ⟨native, descriptor⟩
  let dispatch := Dispatch.of entry ⟨thread, key, arguments, 0⟩ ⟨session, .empty⟩
  have dispatched := answered.symm.trans (Dispatch.outcome_of entry _ ⟨session, .empty⟩)
  rw [Prod.mk.injEq] at dispatched
  rcases dispatched with ⟨decided, left⟩
  have made : after = dispatch.left.session.machine := congrArg Invocation.machine left
  have pushed : Operands.empty.push value = dispatch.left.operands :=
    congrArg Invocation.operands left
  have returns : descriptor.Returns dispatch.left.operands.stack := by
    rw [← pushed]
    exact MethodDescriptor.returns_value fits
  have course : Course executor.initClass entry ⟨thread, key, arguments, 0⟩ []
      ⟨session, .empty⟩ [dispatch] (some (.ok ())) dispatch.left :=
    .ended (.completed decided.symm returns)
  rw [executor.outcome_invoke registered (course.outcome_complete rfl enough), ← pushed, made]
  rfl

/-- The call of a native that puts a question is the question. -/
theorem outcome_invoke_inquire (holds : executor.registry.HoldsBuiltins)
    (enough : 0 < executor.limit) {question : ClassId → Action (Machine ι) α} {value : α → Value}
    (listed : (key, Native.inquire question value) ∈
      (Native.builtins : List (MethodKey × Native ι)))
    {mirror : Object} {id : ClassId} (mirrors : mirror.mirrored? = some id)
    (known : (session.machine.area.class? id).isSome) :
    (executor.invoke thread key [.reference (some mirror)]).outcome session =
      (Session.onMachine (do
        Machine.count Metrics.countDispatch
        let result ← question id
        pure (some (value result)))).outcome session := by
  let site : CallSite := ⟨thread, key, [.reference (some mirror)], 0⟩
  let counted := (session.counted Metrics.countDispatch).machine
  have answered :=
    Native.outcome_inquire question value site ⟨counted, .empty⟩ mirrors known
  have whole : (Session.onMachine (do
      Machine.count Metrics.countDispatch
      let result ← question id
      pure (some (value result)))).outcome session =
      (((question id >>= fun result => pure (some (value result))).outcome counted).1,
        { session with machine :=
          ((question id >>= fun result => pure (some (value result))).outcome counted).2 }) := rfl
  rw [whole, Action.outcome_bind]
  rcases ended : (question id).outcome counted with ⟨fault | result, after⟩
  · rw [ended] at answered
    rcases holds key _ listed with ⟨descriptor, _, registered⟩
    exact executor.outcome_invoke_of_error registered enough answered
  · rw [ended] at answered
    exact executor.outcome_invoke_of_answer holds listed enough answered

end Executor
end ClassRuntime

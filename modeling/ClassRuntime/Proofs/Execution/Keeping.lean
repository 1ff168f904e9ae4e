import ClassRuntime.Proofs.Execution.Calls
import ClassRuntime.Proofs.Execution.Record

namespace ClassRuntime

/-!
# Keeping a record in order

An action keeps a session in order if, provided that it comes to an end, the
record is in order afterwards and the same initializations are under way as
before.  Requests do so because they are quiet, and calls of natives because
natives make requests and wait for classes that are initialized in order.  An
action that is observed always has an answer, unless the limits are used up.
-/

namespace Recorded

variable {ι σ τ α β : Type} {session after : Session ι (Recorded ι σ)}

/-- An action on a state with a session in it keeps the session in order
whenever it comes to an end. -/
def Keeps (view : τ → Session ι (Recorded ι σ)) (action : Action τ α) : Prop :=
  ∀ state, Orderly (view state) → (action.outcome state).1 ≠ .error .exhausted →
    Later (view state) (view (action.outcome state).2)

/-- An action that keeps its session in order. -/
abbrev Orders (action : Action (Session ι (Recorded ι σ)) α) : Prop :=
  Keeps (fun session => session) action

namespace Keeps

variable {view : τ → Session ι (Recorded ι σ)}

/-- An action that leaves the session alone. -/
theorem unseen {action : Action τ α} (same : ∀ state, view (action.outcome state).2 = view state) :
    Keeps view action := by
  intro state orderly _
  rw [same]
  exact .refl orderly

theorem pure (value : α) : Keeps view (Pure.pure value : Action τ α) :=
  unseen fun _ => rfl

theorem fail (cause : RuntimeError) : Keeps view (Action.fail cause : Action τ α) :=
  unseen fun _ => rfl

theorem get : Keeps view (MonadState.get : Action τ τ) :=
  unseen fun _ => rfl

theorem exhausted : Keeps view (throw .exhausted : Action τ α) := by
  intro state _ finished
  exact absurd rfl finished

theorem bind {action : Action τ α} {next : α → Action τ β} (first : Keeps view action)
    (rest : ∀ value, Keeps view (next value)) : Keeps view (action >>= next) := by
  intro state orderly finished
  have before := first state orderly
  rw [Action.outcome_bind] at finished ⊢
  rcases ended : action.outcome state with ⟨fault | value, middle⟩
  · rw [ended] at before finished
    apply before
    intro same
    apply finished
    cases same
    rfl
  · rw [ended] at before finished
    have between := before (by simp)
    exact between.trans (rest value middle between.orderly finished)

/-- An action on a part of a state. -/
theorem within {ρ : Type} {part : Part ρ τ} {whole : ρ → Session ι (Recorded ι σ)}
    {action : Action τ α} (keeps : Keeps view action)
    (read : ∀ state, view (part.read state) = whole state)
    (replaced : ∀ state inner, whole (part.replace inner state) = view inner) :
    Keeps whole (action.within part) := by
  intro state orderly finished
  rw [Action.outcome_within] at finished ⊢
  rw [← read] at orderly ⊢
  rw [replaced]
  exact keeps _ orderly finished

end Keeps

/-- An action that has a result unless the limits are used up. -/
abbrev Answers (action : Action τ α) : Prop :=
  action.Throws fun fault => fault = .exhausted

/-! ## Requests and observed operations -/

theorem orders_onMachine {action : Action (Machine ι) α} (quiet : action.Within Machine.Quiet) :
    Orders (Session.onMachine action : Action (Session ι (Recorded ι σ)) α) := by
  intro session orderly _
  exact orderly.quiet (quiet session.machine)

theorem outcome_answered {result : Except Fault α} (answer : result ≠ .error .exhausted)
    (state : τ) : (answered result).outcome state = (.ok result, state) := by
  unfold answered
  split
  · exact absurd rfl answer
  · rfl

theorem outcome_observe (thread : ThreadId) (operation : Action (Session ι (Recorded ι σ)) α)
    (session : Session ι (Recorded ι σ)) :
    (observe thread operation).outcome session =
      match operation.outcome (noted (.started thread) session) with
      | (.error .exhausted, after) => (.error .exhausted, after)
      | (result, after) => (.ok result, noted (.ended thread) after) := by
  simp only [observe, note, Action.outcome_bind, Action.outcome_modify, Action.outcome_attempt]
  rcases operation.outcome (noted (.started thread) session) with ⟨fault | value, after⟩
  · cases fault <;> rfl
  · rfl

theorem observe_answers (thread : ThreadId)
    (operation : Action (Session ι (Recorded ι σ)) α) : Answers (observe thread operation) := by
  intro session fault failed
  rw [outcome_observe] at failed
  split at failed
  · cases failed
    rfl
  · cases failed

theorem orders_observe {thread : ThreadId} {operation : Action (Session ι (Recorded ι σ)) α}
    (orders : Orders operation) : Orders (observe thread operation) := by
  intro session orderly finished
  have before : Later session (noted (.started thread) session) :=
    orderly.noted_of_none rfl
  have performed := orders (noted (.started thread) session) before.orderly
  rw [outcome_observe] at finished ⊢
  split at finished
  · exact absurd rfl finished
  next result later unfinished ended =>
    rw [ended] at performed
    have between := performed unfinished
    exact (before.trans between).trans (between.orderly.noted_of_none rfl)

/-! ## Calls of natives -/

/-- An action in the course of a call that keeps its session in order. -/
abbrev Serves (action : Action (Call ι (Recorded ι σ)) α) : Prop :=
  Keeps Call.session action

theorem serves_onMachine {action : Action (Machine ι) α} (quiet : action.Within Machine.Quiet) :
    Serves (Call.onMachine action : Action (Call ι (Recorded ι σ)) α) :=
  (orders_onMachine quiet).within (fun _ => rfl) fun _ _ => rfl

theorem calling_keeps :
    Call.Calling (fun _ action => Orders action)
      fun α (action : Action (Call ι (Recorded ι σ)) α) => Serves action where
  pure := .pure
  get := .get
  bind := .bind
  fail := .fail
  exhausted := .exhausted
  clear := .unseen fun _ => rfl
  countDispatch := serves_onMachine (Machine.quiet_count fun _ => rfl)
  countDeferral := serves_onMachine (Machine.quiet_count fun _ => rfl)
  getClass id := serves_onMachine (Machine.quiet_getClass id)
  native lawful site call orderly _ :=
    orderly.quiet (lawful site ⟨call.session.machine, call.operands⟩).quiet
  onSession orders := orders.within (fun _ => rfl) fun _ _ => rfl

/-- A call that is not cut short keeps the session in order, whatever it
results in. -/
theorem invokeIn_later {executor : Executor ι (Recorded ι σ)}
    (lawful : executor.registry.All Native.Lawful)
    (orders : ∀ thread id, Orders (executor.initClass thread id)) (thread : ThreadId)
    (method : MethodKey) (frame : Frame) (orderly : Orderly session) :
    ∃ result last after, (executor.invokeIn thread method frame).outcome session =
      (.ok (result, last), after) ∧ (result ≠ .error .exhausted → Later session after) := by
  unfold Executor.invokeIn
  split
  next cause _ => exact ⟨_, _, _, rfl, fun _ => .refl orderly⟩
  next entry found =>
    have handles := lawful _ _ found
    exact ⟨_, _, _, rfl,
      calling_keeps.complete orders handles _ _ _ ⟨session, frame.operands⟩ orderly⟩

theorem orders_invoke {executor : Executor ι (Recorded ι σ)}
    (lawful : executor.registry.All Native.Lawful)
    (orders : ∀ thread id, Orders (executor.initClass thread id)) (thread : ThreadId)
    (method : MethodKey) (arguments : Arguments) :
    Orders (executor.invoke thread method arguments) := by
  intro session orderly finished
  rcases invokeIn_later lawful orders thread method (.create arguments 0) orderly with
    ⟨result, last, after, ended, later⟩
  unfold Executor.invoke at finished ⊢
  rw [Action.outcome_bind, ended] at finished ⊢
  cases result with
  | error fault => exact later fun same => finished (by cases same; rfl)
  | ok value => exact later (by simp)

end Recorded

end ClassRuntime

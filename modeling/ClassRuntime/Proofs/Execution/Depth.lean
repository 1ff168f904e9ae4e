import ClassRuntime.Proofs.Execution.Discipline
import ClassRuntime.Proofs.Execution.Entering

namespace ClassRuntime

/-!
# How deep initializers may nest

A run is given a limit on how deep requests may be nested in initializers.  It is there
to make the run end, and it is not part of what a runtime does.  So a run that has not hit
the limit must be the same under every higher one.  This is not obvious from the answers
alone, because an initializer can go on after a failure.  It cannot go on after the limit
has been hit, which is why such a run is cut short as a whole.
-/

namespace Action

variable {σ τ α β : Type}

/-- The second action ends like the first whenever the first is not cut short. -/
def Prolongs (first second : Action σ α) : Prop :=
  ∀ state, (first.outcome state).1 ≠ .error .exhausted →
    second.outcome state = first.outcome state

namespace Prolongs

theorem refl (action : Action σ α) : action.Prolongs action :=
  fun _ _ => rfl

theorem exhausted (action : Action σ α) : Prolongs (throw .exhausted) action :=
  fun _ finished => absurd rfl finished

theorem bind {first second : Action σ α} {next onward : α → Action σ β}
    (prolongs : first.Prolongs second) (rest : ∀ value, (next value).Prolongs (onward value)) :
    (first >>= next).Prolongs (second >>= onward) := by
  intro state finished
  have same := prolongs state
  rw [outcome_bind] at finished ⊢
  rcases ended : first.outcome state with ⟨fault | value, after⟩
  · rw [ended] at same finished
    rw [outcome_bind, same fun cut => finished (by cases cut; rfl), ended]
  · rw [ended] at same finished
    rw [outcome_bind, same (by simp), ended]
    exact rest value after finished

theorem within {part : Part τ σ} {first second : Action σ α} (prolongs : first.Prolongs second) :
    (first.within part).Prolongs (second.within part) := by
  intro state finished
  rw [outcome_within] at finished
  rw [outcome_within, outcome_within, prolongs _ finished]

end Prolongs
end Action

namespace Setting

open Recorded

variable {ι σ α : Type} {setting : Setting ι σ} {nested deeper : InitClass ι (Recorded ι σ)}

theorem prolongs_observe (thread : ThreadId)
    {operation longer : Action (Session ι (Recorded ι σ)) α}
    (prolongs : operation.Prolongs longer) :
    (observe thread operation).Prolongs (observe thread longer) := by
  intro session finished
  rw [outcome_observe] at finished
  have same := prolongs (noted (.started thread) session) fun cut => by
    rcases ended : operation.outcome (noted (.started thread) session) with ⟨result, after⟩
    rw [ended] at cut finished
    subst cut
    exact finished rfl
  rw [outcome_observe, outcome_observe, same]

section Nested

variable (prolongs : ∀ thread id, (nested thread id).Prolongs (deeper thread id))

include prolongs

theorem prolongs_executor (thread : ThreadId) (id : ClassId) :
    ((setting.executor nested).initClass thread id).Prolongs
      ((setting.executor deeper).initClass thread id) :=
  .bind (prolongs_observe thread (prolongs thread id)) fun _ => .refl _

theorem prolongs_complete (entry : RegistryEntry (Native ι)) (site : CallSite) (limit : Nat)
    (awaited : List ClassId) :
    (Call.complete (setting.executor nested).initClass entry site limit awaited).Prolongs
      (Call.complete (setting.executor deeper).initClass entry site limit awaited) := by
  induction limit generalizing awaited with
  | zero => exact .refl _
  | succ limit inductiveStep =>
    refine .bind (.refl _) fun outcome => ?_
    cases outcome with
    | complete => exact .refl _
    | deferred dependency =>
      refine .bind (.bind (.refl _) fun call => .bind (.refl _) fun _ => ?_) fun _ =>
        inductiveStep _
      split
      · exact .refl _
      · exact .bind (.refl _) fun _ => (prolongs_executor prolongs site.thread dependency).within

/-- A call in a frame has an answer even if it has hit the limit.  So it matters how one
goes on. -/
theorem prolongs_invokeIn (thread : ThreadId) (method : MethodKey) (frame : Frame)
    {next : Except Fault Unit × Frame → Action (Session ι (Recorded ι σ)) α}
    (cut : ∀ last session, ((next (.error .exhausted, last)).outcome session).1 =
      .error .exhausted) :
    ((setting.executor nested).invokeIn thread method frame >>= next).Prolongs
      ((setting.executor deeper).invokeIn thread method frame >>= next) := by
  have sameRegistry : (setting.executor deeper).registry = (setting.executor nested).registry := rfl
  have sameLimit : (setting.executor deeper).limit = (setting.executor nested).limit := rfl
  unfold Executor.invokeIn
  rw [sameRegistry, sameLimit]
  split
  next => exact .refl _
  next entry _ =>
    intro session finished
    rw [Action.outcome_bind, Action.outcome_ofOutcome] at finished ⊢
    rw [Action.outcome_bind, Action.outcome_ofOutcome]
    dsimp only at finished ⊢
    rw [prolongs_complete prolongs entry _ _ [] ⟨session, frame.operands⟩]
    intro same
    rw [same] at finished
    exact finished (cut _ _)

theorem prolongs_perform (thread : ThreadId) (operation : Operation ι α) :
    (setting.perform nested thread operation).Prolongs
      (setting.perform deeper thread operation) := by
  cases operation with
  | request request => exact .refl _
  | initClass id => exact prolongs thread id
  | invoke method arguments =>
    exact prolongs_invokeIn prolongs thread method _ fun _ _ => rfl
  | invokeIn method frame =>
    exact prolongs_invokeIn prolongs thread method frame fun _ _ => rfl

theorem prolongs_runProgram (thread : ThreadId) (program : Program ι σ) :
    (setting.runProgram nested thread program).Prolongs
      (setting.runProgram deeper thread program) := by
  induction program with
  | finish result => exact .refl _
  | operate operation next inductiveStep =>
    exact .bind (prolongs_observe thread (prolongs_perform prolongs thread operation)) inductiveStep
  | consult change next inductiveStep =>
    exact .bind (.refl _) fun _ => .bind (.refl _) fun session => inductiveStep _

theorem prolongs_runInitializer (thread : ThreadId) (id : ClassId) (initializer : Option ι) :
    (Initialization.runInitializer setting.host nested thread id initializer).Prolongs
      (Initialization.runInitializer setting.host deeper thread id initializer) := by
  cases initializer with
  | none => exact .refl _
  | some code =>
    exact .bind (.refl _) fun _ => .bind (.refl _) fun _ =>
      .bind (prolongs_runProgram prolongs thread _) fun _ => .refl _

theorem prolongs_enter (thread : ThreadId) (id : ClassId) :
    (Initialization.enter setting.host nested thread id).Prolongs
      (Initialization.enter setting.host deeper thread id) := by
  refine .bind (.refl _) fun loaded => ?_
  rcases loaded.progress.claim thread with ⟨claim, progress⟩
  cases claim with
  | execute =>
    exact .bind (.refl _) fun _ => .bind (prolongs_runInitializer prolongs thread id _) fun _ =>
      .refl _
  | initialized | recursive | failed | waiting => exact .refl _

theorem prolongs_enterAll (thread : ThreadId) (list : List ClassId) :
    (Initialization.enterAll setting.host nested thread list).Prolongs
      (Initialization.enterAll setting.host deeper thread list) := by
  induction list with
  | nil => exact .refl _
  | cons first rest inductiveStep =>
    exact .bind (prolongs_enter prolongs thread first) fun _ => inductiveStep

theorem prolongs_initClassWith (thread : ThreadId) (id : ClassId) :
    (Initialization.initClassWith setting.host nested thread id).Prolongs
      (Initialization.initClassWith setting.host deeper thread id) :=
  .bind (.refl _) fun _ => .bind (.refl _) fun list => prolongs_enterAll prolongs thread list

end Nested

/-- More requests may be nested. -/
theorem prolongs_initClass {depth more : Nat} (enough : depth ≤ more) (thread : ThreadId)
    (id : ClassId) :
    (Initialization.initClass setting.host depth thread id).Prolongs
      (Initialization.initClass setting.host more thread id) := by
  induction depth generalizing more thread id with
  | zero =>
    rw [Initialization.initClass_eq, Initialization.initClass_eq]
    exact prolongs_initClassWith (fun _ _ => .exhausted _) thread id
  | succ depth inductiveStep =>
    cases more with
    | zero => exact absurd enough (Nat.not_succ_le_zero depth)
    | succ more =>
      exact prolongs_initClassWith (inductiveStep (Nat.le_of_succ_le_succ enough)) thread id

/-- A run that comes to an end is the same under every higher limit. -/
theorem prolongs_run {depth more : Nat} (enough : depth ≤ more) (tasks : List (Task ι)) :
    (setting.run depth tasks).Prolongs (setting.run more tasks) := by
  induction tasks with
  | nil => exact .refl _
  | cons task rest inductiveStep =>
    exact .bind (prolongs_observe task.thread
      (prolongs_perform (prolongs_initClass enough) task.thread task.operation)) fun _ =>
        inductiveStep

end Setting
end ClassRuntime

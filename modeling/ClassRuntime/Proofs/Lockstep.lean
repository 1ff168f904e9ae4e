import ClassRuntime.Proofs.Action

namespace ClassRuntime
namespace Action

/-!
# Two runs side by side

That a result does not depend on the state in which an action is begun is a
statement about two runs.  They are begun in different states and may take
different ways: what one has to make, the other finds.  What matters is that in
the end both return related results, or that both are abandoned with the same
error of the runtime.  No other fault is allowed, so that nothing is said here of
a run that goes astray together with the other.

Handles mean something in their own state only.  So how two results are related is
said of the states in which the runs have ended.
-/

variable {σ τ α β : Type}

/-- Two runs have come to the same. -/
inductive Agree (post : σ → σ → α → α → Prop) : Except Fault α × σ → Except Fault α × σ → Prop
  | returned {after twinAfter : σ} {value other : α} (told : post after twinAfter value other) :
      Agree post (.ok value, after) (.ok other, twinAfter)
  | abandoned (cause : RuntimeError) (after twinAfter : σ) :
      Agree post (.error (.error cause), after) (.error (.error cause), twinAfter)

theorem Agree.same {outcome twinOutcome : Except Fault α × σ}
    (agree : Agree (fun _ _ value other => value = other) outcome twinOutcome) :
    outcome.1 = twinOutcome.1 := by
  cases agree with
  | returned told => rw [told]
  | abandoned cause => rfl

/-- The first run is not abandoned for other faults than errors of the runtime. -/
theorem Agree.isOk_or_error {post : σ → σ → α → α → Prop} {outcome twinOutcome : Except Fault α × σ}
    (agree : Agree post outcome twinOutcome) :
    (∃ value, outcome.1 = .ok value) ∨ ∃ cause, outcome.1 = .error (.error cause) := by
  cases agree with
  | returned => exact Or.inl ⟨_, rfl⟩
  | abandoned cause => exact Or.inr ⟨cause, rfl⟩

/-- Two actions, each begun in its own state, come to the same, and each leads to a
state that is related to the one before. -/
structure Lockstep (relation : σ → σ → Prop) (state twin : σ) (action other : Action σ α)
    (post : σ → σ → α → α → Prop) : Prop where
  left : relation state (action.outcome state).2
  right : relation twin (other.outcome twin).2
  agree : Agree post (action.outcome state) (other.outcome twin)

namespace Lockstep

variable {relation : σ → σ → Prop} {state twin : σ}

/-- Both runs are known to return a result. -/
theorem of_ok {action other : Action σ α} {post : σ → σ → α → α → Prop} {after twinAfter : σ}
    {value found : α} (ended : action.outcome state = (.ok value, after))
    (twinEnded : other.outcome twin = (.ok found, twinAfter)) (left : relation state after)
    (right : relation twin twinAfter) (told : post after twinAfter value found) :
    Lockstep relation state twin action other post := by
  constructor
  · rw [ended]
    exact left
  · rw [twinEnded]
    exact right
  · rw [ended, twinEnded]
    exact .returned told

/-- Both actions do in their states what two others are known to do. -/
theorem congr {action other first second : Action σ α} {post : σ → σ → α → α → Prop}
    (same : action.outcome state = first.outcome state)
    (twinSame : other.outcome twin = second.outcome twin)
    (known : Lockstep relation state twin first second post) :
    Lockstep relation state twin action other post := by
  rcases known with ⟨left, right, agree⟩
  rw [← same] at left agree
  rw [← twinSame] at right agree
  exact ⟨left, right, agree⟩

theorem mono {action other : Action σ α} {post weaker : σ → σ → α → α → Prop}
    (known : Lockstep relation state twin action other post)
    (implies : ∀ {after twinAfter value found}, post after twinAfter value found →
      weaker after twinAfter value found) :
    Lockstep relation state twin action other weaker := by
  rcases known with ⟨left, right, agree⟩
  refine ⟨left, right, ?_⟩
  generalize action.outcome state = outcome at agree ⊢
  generalize other.outcome twin = twinOutcome at agree ⊢
  cases agree with
  | returned told => exact .returned (implies told)
  | abandoned cause after twinAfter => exact .abandoned cause after twinAfter

/-- Two actions on a part of a state. -/
theorem within {part : Part τ σ} {whole : τ → τ → Prop} {session twinSession : τ}
    {action other : Action σ α} {post : σ → σ → α → α → Prop}
    (inner : Lockstep relation (part.read session) (part.read twinSession) action other post)
    (carried : ∀ session after, relation (part.read session) after →
      whole session (part.replace after session))
    (kept : ∀ session after, part.read (part.replace after session) = after) :
    Lockstep whole session twinSession (action.within part) (other.within part)
      fun after twinAfter => post (part.read after) (part.read twinAfter) := by
  rcases inner with ⟨left, right, agree⟩
  refine ⟨carried _ _ left, carried _ _ right, ?_⟩
  rw [outcome_within, outcome_within]
  generalize action.outcome (part.read session) = outcome at agree ⊢
  generalize other.outcome (part.read twinSession) = twinOutcome at agree ⊢
  cases agree with
  | returned told =>
    refine .returned ?_
    rw [kept, kept]
    exact told
  | abandoned cause => exact .abandoned cause _ _

section Preorder

variable [IsPreorder σ relation]

theorem pure {post : σ → σ → α → α → Prop} {value found : α} (told : post state twin value found) :
    Lockstep relation state twin (Pure.pure value) (Pure.pure found) post :=
  .of_ok rfl rfl (refl_of relation state) (refl_of relation twin) told

/-- What is told of the first results may be used for the second ones. -/
theorem bind {action other : Action σ α} {next twinNext : α → Action σ β}
    {post : σ → σ → α → α → Prop} {later : σ → σ → β → β → Prop}
    (begun : Lockstep relation state twin action other post)
    (rest : ∀ {middle twinMiddle value found}, relation state middle → relation twin twinMiddle →
      post middle twinMiddle value found →
        Lockstep relation middle twinMiddle (next value) (twinNext found) later) :
    Lockstep relation state twin (action >>= next) (other >>= twinNext) later := by
  rcases begun with ⟨left, right, agree⟩
  rcases ended : action.outcome state with ⟨result, middle⟩
  rcases twinEnded : other.outcome twin with ⟨twinResult, twinMiddle⟩
  rw [ended] at left agree
  rw [twinEnded] at right agree
  cases agree with
  | @returned _ _ value found told =>
    have whole : (action >>= next).outcome state = (next value).outcome middle := by
      rw [outcome_bind, ended]
    have twinWhole : (other >>= twinNext).outcome twin = (twinNext found).outcome twinMiddle := by
      rw [outcome_bind, twinEnded]
    have remaining := rest left right told
    constructor
    · rw [whole]
      exact trans_of relation left remaining.left
    · rw [twinWhole]
      exact trans_of relation right remaining.right
    · rw [whole, twinWhole]
      exact remaining.agree
  | abandoned cause =>
    have whole : (action >>= next).outcome state = (.error (.error cause), middle) := by
      rw [outcome_bind, ended]
    have twinWhole : (other >>= twinNext).outcome twin = (.error (.error cause), twinMiddle) := by
      rw [outcome_bind, twinEnded]
    constructor
    · rw [whole]
      exact left
    · rw [twinWhole]
      exact right
    · rw [whole, twinWhole]
      exact .abandoned cause middle twinMiddle

theorem map {action other : Action σ α} {post : σ → σ → β → β → Prop} (change : α → β)
    (inner : Lockstep relation state twin action other fun after twinAfter value found =>
      post after twinAfter (change value) (change found)) :
    Lockstep relation state twin (change <$> action) (change <$> other) post := by
  rw [map_eq_pure_bind, map_eq_pure_bind]
  exact inner.bind fun _ _ told => .pure told

end Preorder

end Lockstep

end Action
end ClassRuntime

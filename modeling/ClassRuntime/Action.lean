import ClassRuntime.Error
import ClassRuntime.Handle

namespace ClassRuntime

/-!
# Actions

An action works on a state and either returns a result or is abandoned.  What
it changed before it was abandoned stays changed.  Besides the errors of the
runtime an action can run into a handle that the runtime has not given out,
into a class that another thread is initializing, or into the limit that a
caller has set.
-/

/-- Why an action was abandoned. -/
inductive Fault where
  /-- An error of the runtime. -/
  | error (cause : RuntimeError)
  /-- No loader has this number. -/
  | danglingLoader (id : LoaderId)
  /-- The loader has no class in this place. -/
  | danglingClass (id : ClassId)
  /-- Another thread has to finish the initialization first. -/
  | blocked (id : ClassId)
  /-- The limit of steps is used up. -/
  | exhausted
  deriving DecidableEq, Inhabited

/-- The fault in words. -/
def Fault.message : Fault → String
  | .error cause => cause.message
  | .danglingLoader id => "dangling loader id " ++ id.text
  | .danglingClass id => "dangling class id " ++ id.text
  | .blocked id => "waiting for the initialization of " ++ id.text
  | .exhausted => "limit of steps used up"

/-- An operation on a state of type `σ`. -/
abbrev Action (σ α : Type) := ExceptT Fault (StateM σ) α

namespace Action

variable {σ τ α β : Type}

/-- The outcome of an action and the state it leaves. -/
def outcome (action : Action σ α) (state : σ) : Except Fault α × σ :=
  StateT.run (ExceptT.run action) state

/-- An action that is given by its outcome. -/
def ofOutcome (outcome : σ → Except Fault α × σ) : Action σ α :=
  ExceptT.mk outcome

@[simp] theorem outcome_ofOutcome (result : σ → Except Fault α × σ) (state : σ) :
    (ofOutcome result).outcome state = result state := rfl

@[simp] theorem outcome_pure (value : α) (state : σ) :
    (pure value : Action σ α).outcome state = (.ok value, state) := rfl

@[simp] theorem outcome_throw (fault : Fault) (state : σ) :
    (throw fault : Action σ α).outcome state = (.error fault, state) := rfl

@[simp] theorem outcome_get (state : σ) :
    (get : Action σ σ).outcome state = (.ok state, state) := rfl

@[simp] theorem outcome_modify (change : σ → σ) (state : σ) :
    (modify change : Action σ PUnit).outcome state = (.ok ⟨⟩, change state) := rfl

@[simp] theorem outcome_modifyGet (change : σ → α × σ) (state : σ) :
    (modifyGet change : Action σ α).outcome state =
      (.ok (change state).1, (change state).2) := rfl

theorem outcome_bind (action : Action σ α) (next : α → Action σ β) (state : σ) :
    (action >>= next).outcome state =
      match action.outcome state with
      | (.ok value, after) => (next value).outcome after
      | (.error fault, after) => (.error fault, after) := by
  simp only [outcome, ExceptT.run_bind, StateT.run_bind]
  rcases StateT.run (ExceptT.run action) state with ⟨_ | _, _⟩ <;> rfl

/-- Abandon the action with an error of the runtime. -/
def fail (cause : RuntimeError) : Action σ α :=
  throw (.error cause)

/-- Go on with the outcome of an action whether or not it was abandoned. -/
def attempt (action : Action σ α) : Action σ (Except Fault α) :=
  ofOutcome fun state =>
    let (result, after) := action.outcome state
    (.ok result, after)

@[simp] theorem outcome_fail (cause : RuntimeError) (state : σ) :
    (fail cause : Action σ α).outcome state = (.error (.error cause), state) := rfl

@[simp] theorem outcome_attempt (action : Action σ α) (state : σ) :
    action.attempt.outcome state =
      (.ok (action.outcome state).1, (action.outcome state).2) := rfl

/-- Return the value, or abandon the action with the fault. -/
def ofExcept : Except Fault α → Action σ α
  | .ok value => pure value
  | .error fault => throw fault

@[simp] theorem outcome_ofExcept (result : Except Fault α) (state : σ) :
    (ofExcept result : Action σ α).outcome state = (result, state) := by
  cases result <;> rfl

end Action

/-- A part of a state: how to read it and how to replace it. -/
structure Part (τ σ : Type) where
  read : τ → σ
  replace : σ → τ → τ

/-- Run an action on a part of the state. -/
def Action.within {σ τ α : Type} (part : Part τ σ) (action : Action σ α) : Action τ α :=
  .ofOutcome fun state =>
    let (result, after) := action.outcome (part.read state)
    (result, part.replace after state)

@[simp] theorem Action.outcome_within {σ τ α : Type} (part : Part τ σ) (action : Action σ α)
    (state : τ) :
    (action.within part).outcome state =
      ((action.outcome (part.read state)).1,
        part.replace (action.outcome (part.read state)).2 state) := rfl

end ClassRuntime

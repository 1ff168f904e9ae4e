import ClassRuntime.Action
import Mathlib.Order.Defs.Unbundled

namespace ClassRuntime
namespace Action

/-!
# Actions within a relation

Some facts about an action concern only the states before and after it, and
hold whether or not it is abandoned.  Such a fact is a relation between the
two states.  If the relation is reflexive and transitive, an action is within
it as soon as its parts are, so that nothing has to be said about results.
Which faults an action can end with is a fact of the same sort.

What such facts have in common is that they pass from the parts of an action to
the whole.  So it suffices to go through the parts of an action once, for
whatever property passes on in this way.

Other facts depend on the state in which an action begins, and on the results of
what has been done before.  For these each part of an action is seen in the state
in which it is begun.
-/

variable {σ τ α β : Type}

/-- If the whole action returns a result, so do both of its parts. -/
theorem bind_ok {action : Action σ α} {next : α → Action σ β} {state after : σ} {result : β}
    (ended : (action >>= next).outcome state = (.ok result, after)) :
    ∃ value middle, action.outcome state = (.ok value, middle) ∧
      (next value).outcome middle = (.ok result, after) := by
  rw [outcome_bind] at ended
  rcases first : action.outcome state with ⟨fault | value, middle⟩
  · rw [first] at ended
    cases ended
  · rw [first] at ended
    exact ⟨value, middle, rfl, ended⟩

/-- Whatever comes of the action, the state it leaves is related to the state
before. -/
def Within (relation : σ → σ → Prop) (action : Action σ α) : Prop :=
  ∀ state, relation state (action.outcome state).2

namespace Within

variable {relation : σ → σ → Prop}

theorem related {action : Action σ α} (inner : action.Within relation) {state after : σ}
    {result : Except Fault α} (ended : action.outcome state = (result, after)) :
    relation state after := by
  have left := inner state
  rw [ended] at left
  exact left

theorem attempt {action : Action σ α} (inner : action.Within relation) :
    action.attempt.Within relation :=
  inner

/-- An action on a part of a state is within a relation if the part before and
the part after guarantee the relation between the wholes. -/
theorem within {part : Part τ σ} {whole : τ → τ → Prop} {action : Action σ α}
    (inner : action.Within relation)
    (carried : ∀ state after, relation (part.read state) after →
      whole state (part.replace after state)) :
    (action.within part).Within whole := by
  intro state
  rw [Action.outcome_within]
  exact carried state _ (inner _)

section Preorder

variable [IsPreorder σ relation]

theorem pure (value : α) : Within relation (Pure.pure value : Action σ α) :=
  fun state => refl_of relation state

theorem throw (fault : Fault) : Within relation (MonadExcept.throw fault : Action σ α) :=
  fun state => refl_of relation state

theorem fail (cause : RuntimeError) : Within relation (Action.fail cause : Action σ α) :=
  fun state => refl_of relation state

theorem get : Within relation (MonadState.get : Action σ σ) :=
  fun state => refl_of relation state

theorem ofExcept (result : Except Fault α) :
    Within relation (Action.ofExcept result : Action σ α) := by
  intro state
  rw [outcome_ofExcept]
  exact refl_of relation state

theorem bind {action : Action σ α} {next : α → Action σ β} (first : action.Within relation)
    (rest : ∀ value, (next value).Within relation) : (action >>= next).Within relation := by
  intro state
  have before := first state
  rw [outcome_bind]
  rcases ended : action.outcome state with ⟨fault | value, after⟩
  · rw [ended] at before
    exact before
  · rw [ended] at before
    exact trans_of relation before (rest value after)

end Preorder

end Within

/-- Whenever the action is abandoned, it is with an allowed fault. -/
def Throws (allowed : Fault → Prop) (action : Action σ α) : Prop :=
  ∀ state fault, (action.outcome state).1 = .error fault → allowed fault

namespace Throws

variable {allowed : Fault → Prop}

theorem pure (value : α) : Throws allowed (Pure.pure value : Action σ α) :=
  fun _ _ impossible => by cases impossible

theorem get : Throws allowed (MonadState.get : Action σ σ) :=
  fun _ _ impossible => by cases impossible

theorem modify (change : σ → σ) : Throws allowed (modify change : Action σ PUnit) :=
  fun _ _ impossible => by cases impossible

theorem modifyGet (change : σ → α × σ) : Throws allowed (modifyGet change : Action σ α) :=
  fun _ _ impossible => by cases impossible

theorem throw {fault : Fault} (fine : allowed fault) :
    Throws allowed (MonadExcept.throw fault : Action σ α) := by
  rintro state _ ⟨⟩
  exact fine

theorem ofExcept {result : Except Fault α} (fine : ∀ fault, result = .error fault → allowed fault) :
    Throws allowed (Action.ofExcept result : Action σ α) := by
  intro state fault failed
  rw [outcome_ofExcept] at failed
  exact fine fault failed

theorem within {part : Part τ σ} {action : Action σ α} (inner : action.Throws allowed) :
    (action.within part).Throws allowed := by
  intro state fault failed
  rw [outcome_within] at failed
  exact inner _ fault failed

theorem bind {action : Action σ α} {next : α → Action σ β} (first : action.Throws allowed)
    (rest : ∀ value, (next value).Throws allowed) : (action >>= next).Throws allowed := by
  intro state fault failed
  rw [outcome_bind] at failed
  rcases ended : action.outcome state with ⟨other | value, after⟩
  · rw [ended] at failed
    cases failed
    exact first state fault (congrArg Prod.fst ended)
  · rw [ended] at failed
    exact rest value after fault failed

end Throws

/-- A property of actions on a state, whatever their results are. -/
abbrev Property (σ : Type) := ∀ α : Type, Action σ α → Prop

/-- A property that passes from the parts of an action to the whole.  An action
that goes on after a fault may raise this fault again. -/
structure Compositional (property : Property σ) : Prop where
  pure : ∀ {α : Type} (value : α), property α (Pure.pure value)
  get : property σ MonadState.get
  bind : ∀ {α β : Type} {action : Action σ α} {next : α → Action σ β},
    property α action → (∀ value, property β (next value)) → property β (action >>= next)
  recover : ∀ {α β : Type} {action : Action σ α} {next : Except Fault α → Action σ β},
    property α action →
      (∀ answer, (∀ fault, answer = .error fault → property α (throw fault)) →
        property β (next answer)) →
      property β (action.attempt >>= next)

theorem Compositional.map {property : Property σ} (passes : Compositional property)
    {action : Action σ α} (change : α → β) (inner : property α action) :
    property β (change <$> action) := by
  rw [map_eq_pure_bind]
  exact passes.bind inner fun value => passes.pure _

theorem compositional_within (relation : σ → σ → Prop) [IsPreorder σ relation] :
    Compositional fun α (action : Action σ α) => action.Within relation where
  pure := .pure
  get := .get
  bind := .bind
  recover inner rest := inner.attempt.bind fun answer => rest answer fun fault _ => .throw fault

theorem compositional_throws (allowed : Fault → Prop) :
    Compositional fun α (action : Action σ α) => action.Throws allowed where
  pure := .pure
  get := .get
  bind := .bind
  recover {_ _ action _} inner rest := by
    intro state fault failed
    rw [outcome_bind, outcome_attempt] at failed
    refine rest (action.outcome state).1 (fun other same => .throw ?_) _ fault failed
    exact inner state other same

/-! ## Single runs -/

/-- Begun in the state, the action leads to a related one.  If it is abandoned, it
is with an allowed fault, and otherwise its result is as told. -/
structure Sound (relation : σ → σ → Prop) (allowed : Fault → Prop) (action : Action σ α) (state : σ)
    (post : α → σ → Prop) : Prop where
  related : relation state (action.outcome state).2
  fault : ∀ fault, (action.outcome state).1 = .error fault → allowed fault
  result : ∀ value, (action.outcome state).1 = .ok value → post value (action.outcome state).2

namespace Sound

variable {relation : σ → σ → Prop} {allowed : Fault → Prop} {state : σ}

/-- Nothing is told about the result. -/
theorem of_within {action : Action σ α} (within : action.Within relation)
    (throws : ∀ fault, (action.outcome state).1 = .error fault → allowed fault) :
    action.Sound relation allowed state fun _ _ => True :=
  ⟨within state, throws, fun _ _ => trivial⟩

/-- The action is known to return a result. -/
theorem of_ok {action : Action σ α} {post : α → σ → Prop} {value : α} {after : σ}
    (ended : action.outcome state = (.ok value, after)) (related : relation state after)
    (holds : post value after) : action.Sound relation allowed state post := by
  constructor
  · rw [ended]
    exact related
  · rw [ended]
    rintro _ ⟨⟩
  · rw [ended]
    rintro _ ⟨⟩
    exact holds

/-- The action is known to be abandoned. -/
theorem of_error {action : Action σ α} {post : α → σ → Prop} {fault : Fault} {after : σ}
    (ended : action.outcome state = (.error fault, after)) (related : relation state after)
    (fine : allowed fault) : action.Sound relation allowed state post := by
  constructor
  · rw [ended]
    exact related
  · rw [ended]
    rintro _ ⟨⟩
    exact fine
  · rw [ended]
    rintro _ ⟨⟩

/-- The action does in the state what another one is known to do. -/
theorem congr {action other : Action σ α} {post : α → σ → Prop}
    (same : action.outcome state = other.outcome state)
    (sound : other.Sound relation allowed state post) :
    action.Sound relation allowed state post := by
  rcases sound with ⟨related, fault, result⟩
  rw [← same] at related fault result
  exact ⟨related, fault, result⟩

theorem mono {action : Action σ α} {post weaker : α → σ → Prop}
    (sound : action.Sound relation allowed state post)
    (implies : ∀ value after, relation state after → post value after → weaker value after) :
    action.Sound relation allowed state weaker :=
  ⟨sound.related, sound.fault,
    fun value ended => implies value _ sound.related (sound.result value ended)⟩

section Preorder

variable [IsPreorder σ relation]

theorem pure {post : α → σ → Prop} {value : α} (holds : post value state) :
    Sound relation allowed (Pure.pure value : Action σ α) state post where
  related := refl_of relation state
  fault _ impossible := by cases impossible
  result _ same := by
    cases same
    exact holds

theorem throw {post : α → σ → Prop} {fault : Fault} (fine : allowed fault) :
    Sound relation allowed (MonadExcept.throw fault : Action σ α) state post where
  related := refl_of relation state
  fault _ same := by
    cases same
    exact fine
  result _ impossible := by cases impossible

theorem get : Sound relation allowed (MonadState.get : Action σ σ) state
    fun seen after => seen = state ∧ after = state where
  related := refl_of relation state
  fault _ impossible := by cases impossible
  result _ same := by
    cases same
    exact ⟨rfl, rfl⟩

/-- What is told of the first result may be used for the second. -/
theorem bind {action : Action σ α} {next : α → Action σ β} {post : α → σ → Prop}
    {later : β → σ → Prop} (first : action.Sound relation allowed state post)
    (rest : ∀ value middle, relation state middle → post value middle →
      (next value).Sound relation allowed middle later) :
    (action >>= next).Sound relation allowed state later := by
  have related := first.related
  rcases ended : action.outcome state with ⟨fault | value, middle⟩
  · have whole : (action >>= next).outcome state = (.error fault, middle) := by
      rw [outcome_bind, ended]
    rw [ended] at related
    constructor
    · rw [whole]
      exact related
    · rw [whole]
      rintro _ ⟨⟩
      exact first.fault fault (congrArg Prod.fst ended)
    · rw [whole]
      rintro _ ⟨⟩
  · have whole : (action >>= next).outcome state = (next value).outcome middle := by
      rw [outcome_bind, ended]
    have told := first.result value (congrArg Prod.fst ended)
    rw [ended] at related told
    have remaining := rest value middle related told
    constructor
    · rw [whole]
      exact trans_of relation related remaining.related
    · rw [whole]
      exact remaining.fault
    · rw [whole]
      exact remaining.result

theorem map {action : Action σ α} {post : β → σ → Prop} (change : α → β)
    (inner : action.Sound relation allowed state fun value after => post (change value) after) :
    (change <$> action).Sound relation allowed state post := by
  rw [map_eq_pure_bind]
  exact inner.bind fun value middle _ told => .pure told

end Preorder

end Sound

end Action
end ClassRuntime

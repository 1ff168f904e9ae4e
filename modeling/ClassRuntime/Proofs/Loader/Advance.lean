import ClassRuntime.Proofs.Loader.Quiet

namespace ClassRuntime

/-!
# How initialization advances

The initialization of a class is claimed by a thread and then succeeds or
fails; nothing leads back, and nothing leads on from there.  An area advances
if it keeps its classes and each of them has made such moves alone.  Setting
the progress of one class along a move is an advance, and so is every quiet
change.
-/

namespace Progress

/-- One step of an initialization. -/
inductive Moves : Progress → Progress → Prop
  | claim (thread : ThreadId) : Moves .notStarted (.inProgress thread)
  | succeed (owner : ThreadId) : Moves (.inProgress owner) .initialized
  | fail (owner : ThreadId) : Moves (.inProgress owner) .failed

/-- Any number of steps. -/
def Advances : Progress → Progress → Prop :=
  Relation.ReflTransGen Moves

/-- The end of an initialization is final. -/
theorem Advances.final {before after : Progress} (advances : before.Advances after)
    (ended : before = .initialized ∨ before = .failed) : after = before := by
  induction advances with
  | refl => rfl
  | tail _ last inductiveStep =>
    rw [inductiveStep] at last
    rcases ended with rfl | rfl
    · cases last
    · cases last

/-- Nothing leads back to the start. -/
theorem Advances.started {before after : Progress} (advances : before.Advances after)
    (started : before ≠ .notStarted) : after ≠ .notStarted := by
  induction advances with
  | refl => exact started
  | tail _ last _ =>
    intro back
    rw [back] at last
    cases last

end Progress

namespace Area

variable {ι : Type} {before middle after area : Area ι}

/-- The classes are kept, and each has come as far as before or farther. -/
def Advances (before after : Area ι) : Prop :=
  ∀ id loaded, before.class? id = some loaded → ∃ later, after.class? id = some later ∧
    later.toTypeDescriptor = loaded.toTypeDescriptor ∧ later.initializer = loaded.initializer ∧
      loaded.progress.Advances later.progress

theorem Quiet.advances (quiet : before.Quiet after) : before.Advances after := by
  intro id loaded found
  rcases quiet.kept found with ⟨later, foundLater, same⟩
  refine ⟨later, foundLater, LoadedClass.type_of_bare same,
    LoadedClass.initializer_of_bare same, ?_⟩
  rw [LoadedClass.progress_of_bare same]
  exact Relation.ReflTransGen.refl

instance : IsPreorder (Area ι) Advances where
  refl area := (Quiet.refl area).advances
  trans _ _ _ first second := by
    intro id loaded found
    rcases first id loaded found with ⟨middle, foundMiddle, type, initializer, advances⟩
    rcases second id middle foundMiddle with ⟨later, foundLater, types, initializers, onward⟩
    exact ⟨later, foundLater, types.trans type, initializers.trans initializer,
      advances.trans onward⟩

namespace Advances

/-- Only a class that was not there before can gain a superclass. -/
theorem extends_of_known (advances : before.Advances after) {id superclass : ClassId}
    {loaded : LoadedClass ι} (found : before.class? id = some loaded)
    (inherits : after.Extends id superclass) : loaded.superclass = some superclass := by
  rcases inherits with ⟨later, foundLater, above⟩
  rcases advances id loaded found with ⟨other, foundOther, type, _⟩
  rw [foundLater] at foundOther
  cases foundOther
  rw [← type]
  exact above

theorem progress (advances : before.Advances after) {id : ClassId} {loaded : LoadedClass ι}
    (found : before.class? id = some loaded) :
    (before.progress id).Advances (after.progress id) := by
  rcases advances id loaded found with ⟨later, foundLater, _, _, onward⟩
  rw [progress_eq found, progress_eq foundLater]
  exact onward

theorem started (advances : before.Advances after) {id : ClassId}
    (started : before.progress id ≠ .notStarted) : after.progress id ≠ .notStarted := by
  rcases class?_of_started started with ⟨loaded, found⟩
  exact (advances.progress found).started started

end Advances

/-! ## Setting the progress of a class -/

/-- The area in which one class has come as far as the given progress. -/
def setProgress (area : Area ι) (id : ClassId) (progress : Progress) : Area ι :=
  area.updateClass id fun loaded => { loaded with progress }

section Set

variable {id : ClassId} {loaded : LoadedClass ι}

theorem class?_setProgress (area : Area ι) (id other : ClassId) (progress : Progress) :
    (area.setProgress id progress).class? other =
      if id = other then (area.class? other).map fun loaded => { loaded with progress }
      else area.class? other :=
  class?_updateClass area id other _

theorem progress_setProgress (found : area.class? id = some loaded) (progress : Progress)
    (other : ClassId) :
    (area.setProgress id progress).progress other =
      if id = other then progress else area.progress other := by
  rw [Area.progress, class?_setProgress]
  split
  next here =>
    rw [← here, found]
    rfl
  next => rfl

theorem advances_setProgress {progress : Progress} (found : area.class? id = some loaded)
    (moves : loaded.progress.Moves progress) : area.Advances (area.setProgress id progress) := by
  intro other there foundThere
  rw [class?_setProgress, foundThere]
  split
  next here =>
    subst here
    rw [found] at foundThere
    cases foundThere
    exact ⟨_, rfl, rfl, rfl, Relation.ReflTransGen.single moves⟩
  next => exact ⟨there, rfl, rfl, rfl, Relation.ReflTransGen.refl⟩

theorem extends_setProgress {progress : Progress} {other superclass : ClassId}
    (inherits : (area.setProgress id progress).Extends other superclass) :
    area.Extends other superclass := by
  rcases inherits with ⟨later, foundLater, above⟩
  rw [class?_setProgress] at foundLater
  split at foundLater
  · rcases Option.map_eq_some_iff.1 foundLater with ⟨loaded, found, rfl⟩
    exact ⟨loaded, found, above⟩
  · exact ⟨later, foundLater, above⟩

/-- A class has been claimed, and settled after other things have happened.  If these have
left the same classes in progress, so has the whole. -/
theorem running_settled {owner : ThreadId} {later : LoadedClass ι} {progress : Progress}
    (found : before.class? id = some loaded) (unstarted : loaded.progress = .notStarted)
    (foundLater : after.class? id = some later)
    (moves : Progress.Moves (.inProgress owner) progress)
    (running : ∀ other thread, after.progress other = .inProgress thread ↔
      (before.setProgress id (.inProgress owner)).progress other = .inProgress thread)
    (other : ClassId) (thread : ThreadId) :
    (after.setProgress id progress).progress other = .inProgress thread ↔
      before.progress other = .inProgress thread := by
  rw [progress_setProgress foundLater]
  split
  next here =>
    subst here
    rw [progress_eq found, unstarted]
    refine iff_of_false (fun same => ?_) (by simp)
    subst same
    cases moves
  next elsewhere => rw [running, progress_setProgress found, if_neg elsewhere]

/-- One class has changed, and the number of those that have begun changes
accordingly. -/
theorem begun_setProgress (found : area.class? id = some loaded) (progress : Progress) :
    (area.setProgress id progress).begun + loaded.hasBegun.toNat =
      area.begun + ({ loaded with progress } : LoadedClass ι).hasBegun.toNat :=
  countP_updateClass LoadedClass.hasBegun found fun loaded => { loaded with progress }

end Set

end Area
end ClassRuntime

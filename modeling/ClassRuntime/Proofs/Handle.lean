import ClassRuntime.Handle

namespace ClassRuntime
namespace ClassId

/-!
# The order of classes

Classes are ordered by their loaders, and within a loader by their places.  A
class refers to earlier classes only, so that arguments about references may
go down along this order, which has no infinite descent.
-/

/-- Classes in the order in which they come about: by their loaders, and
within a loader by their places. -/
instance : LT ClassId where
  lt earlier later := earlier.loader.index < later.loader.index ∨
    earlier.loader = later.loader ∧ earlier.index < later.index

instance : DecidableLT ClassId := fun earlier later =>
  inferInstanceAs (Decidable (earlier.loader.index < later.loader.index ∨
    earlier.loader = later.loader ∧ earlier.index < later.index))

theorem lt_iff {earlier later : ClassId} :
    earlier < later ↔ earlier.loader.index < later.loader.index ∨
      earlier.loader = later.loader ∧ earlier.index < later.index :=
  Iff.rfl

theorem lt_trans {first second third : ClassId} (before : first < second)
    (after : second < third) : first < third := by
  rw [lt_iff] at before after ⊢
  rcases before with lower | ⟨same, lower⟩
  · rcases after with higher | ⟨equal, _⟩
    · exact Or.inl (Nat.lt_trans lower higher)
    · exact Or.inl (equal ▸ lower)
  · rw [same]
    rcases after with higher | ⟨equal, higher⟩
    · exact Or.inl higher
    · exact Or.inr ⟨equal, Nat.lt_trans lower higher⟩

theorem lt_irrefl (id : ClassId) : ¬ id < id := by
  intro impossible
  rcases lt_iff.1 impossible with lower | ⟨_, lower⟩ <;> exact Nat.lt_irrefl _ lower

/-- The order has no infinite descent, so that recursion may follow it. -/
theorem lt_wellFounded : WellFounded fun earlier later : ClassId => earlier < later := by
  have lexicographic := (Prod.lex Nat.lt_wfRel Nat.lt_wfRel).wf
  refine Subrelation.wf ?_ (InvImage.wf (fun id : ClassId => (id.loader.index, id.index))
    lexicographic)
  intro earlier later before
  rcases lt_iff.1 before with lower | ⟨same, lower⟩
  · exact Prod.Lex.left _ _ lower
  · simp only [InvImage, same]
    exact Prod.Lex.right _ lower

instance : WellFoundedRelation ClassId := ⟨_, lt_wellFounded⟩

end ClassId
end ClassRuntime

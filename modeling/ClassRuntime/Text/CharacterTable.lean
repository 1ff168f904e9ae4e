namespace ClassRuntime
namespace Text

/-!
# Tables of characters

A class of characters is given by ranges of code points.  The ranges are
listed in increasing order and do not touch, so that each class has one table.
-/

/-- A class of characters, by the first and the last code point of each range. -/
structure CharacterTable where
  ranges : List (Nat × Nat)
  deriving Inhabited

namespace CharacterTable

/-- Whether the character lies in one of the ranges. -/
def contains (table : CharacterTable) (character : Char) : Bool :=
  table.ranges.any fun (first, last) =>
    first ≤ character.toNat && character.toNat ≤ last

/-- Whether every range is in order and leaves a gap to the next one. -/
def isSeparated (table : CharacterTable) : Bool :=
  table.ranges.all (fun (first, last) => first ≤ last) &&
    (table.ranges.zip table.ranges.tail).all fun (earlier, later) => earlier.2 + 1 < later.1

theorem contains_iff {table : CharacterTable} {character : Char} :
    table.contains character = true ↔
      ∃ range ∈ table.ranges, range.1 ≤ character.toNat ∧ character.toNat ≤ range.2 := by
  simp only [contains, List.any_eq_true, Bool.and_eq_true, decide_eq_true_eq]

end CharacterTable
end Text
end ClassRuntime

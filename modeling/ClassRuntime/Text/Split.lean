namespace ClassRuntime
namespace Text

/-!
# Splitting at a mark

A text that holds a mark falls into what stands before its first occurrence
and what stands after it.
-/

/-- The characters before the first occurrence of the mark, and those after it. -/
def splitFirst (mark : Char) : List Char → Option (List Char × List Char)
  | [] => none
  | first :: rest =>
    if first = mark then some ([], rest)
    else (splitFirst mark rest).map fun (before, after) => (first :: before, after)

theorem splitFirst_append (mark : Char) (before after : List Char) (absent : mark ∉ before) :
    splitFirst mark (before ++ mark :: after) = some (before, after) := by
  induction before with
  | nil => simp [splitFirst]
  | cons first rest inductive_step =>
    simp only [List.mem_cons, not_or] at absent
    simp [splitFirst, Ne.symm absent.1, inductive_step absent.2]

theorem eq_of_splitFirst {mark : Char} {text before after : List Char}
    (split : splitFirst mark text = some (before, after)) :
    text = before ++ mark :: after ∧ mark ∉ before := by
  induction text generalizing before after with
  | nil => cases split
  | cons first rest inductive_step =>
    unfold splitFirst at split
    split at split
    next same => cases split; simp [same]
    next different =>
      obtain ⟨⟨initial, remaining⟩, found, same⟩ := Option.map_eq_some_iff.1 split
      cases same
      obtain ⟨equal, absent⟩ := inductive_step found
      simp [equal, absent, Ne.symm different]

theorem length_splitFirst {mark : Char} {text before after : List Char}
    (split : splitFirst mark text = some (before, after)) : after.length < text.length := by
  simp only [(eq_of_splitFirst split).1, List.length_append, List.length_cons]
  omega

end Text
end ClassRuntime

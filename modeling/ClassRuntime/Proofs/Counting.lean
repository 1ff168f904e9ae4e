namespace ClassRuntime

/-!
# Counting

The limits of the recursive functions are justified by counting what is left.
Each time something that was left no longer is, the count goes down.  Other
counts and sums follow a change of one member of a list.
-/

/-- A narrower condition that excludes a member is met less often. -/
theorem countP_lt_countP {α : Type} {narrow wide : α → Bool} {list : List α} {member : α}
    (implies : ∀ other ∈ list, narrow other → wide other) (listed : member ∈ list)
    (excluded : ¬ narrow member) (included : wide member) :
    list.countP narrow < list.countP wide := by
  rcases List.append_of_mem listed with ⟨first, last, rfl⟩
  have firstFewer : first.countP narrow ≤ first.countP wide :=
    List.countP_mono_left fun other here => implies other (List.mem_append_left _ here)
  have lastFewer : last.countP narrow ≤ last.countP wide :=
    List.countP_mono_left fun other here =>
      implies other (List.mem_append_right _ (List.mem_cons_of_mem _ here))
  rw [List.countP_append, List.countP_append, List.countP_cons_of_neg excluded,
    List.countP_cons_of_pos included]
  omega

/-- A change of one member is the only one that the count sees. -/
theorem countP_modify {α : Type} (counted : α → Bool) (change : α → α) {list : List α}
    {index : Nat} {old : α} (here : list[index]? = some old) :
    (list.modify index change).countP counted + (counted old).toNat =
      list.countP counted + (counted (change old)).toNat := by
  have one (member : α) (rest : List α) :
      (member :: rest).countP counted = rest.countP counted + (counted member).toNat := by
    rw [List.countP_cons]
    cases counted member <;> rfl
  induction list generalizing index with
  | nil => cases here
  | cons first rest inductiveStep =>
    cases index with
    | zero =>
      cases here
      rw [List.modify_zero_cons, one, one]
      omega
    | succ index =>
      have later := inductiveStep here
      rw [List.modify_succ_cons, one, one]
      omega

/-- The count does not see a change that it does not depend on. -/
theorem countP_modify_of_kept {α : Type} {counted : α → Bool} {change : α → α}
    (kept : ∀ member, counted (change member) = counted member) (list : List α) (index : Nat) :
    (list.modify index change).countP counted = list.countP counted := by
  induction list generalizing index with
  | nil => rw [List.modify_nil]
  | cons first rest inductiveStep =>
    cases index with
    | zero => rw [List.modify_zero_cons, List.countP_cons, List.countP_cons, kept]
    | succ index =>
      rw [List.modify_succ_cons, List.countP_cons, List.countP_cons, inductiveStep]

/-- The sum of a number over a list. -/
def sumOver {α : Type} (part : α → Nat) (list : List α) : Nat :=
  list.foldr (fun member rest => part member + rest) 0

section Sum

variable {α β : Type} (part : α → Nat)

theorem sumOver_cons (first : α) (rest : List α) :
    sumOver part (first :: rest) = part first + sumOver part rest :=
  rfl

theorem sumOver_append (first last : List α) :
    sumOver part (first ++ last) = sumOver part first + sumOver part last := by
  induction first with
  | nil => simp [sumOver]
  | cons member first inductiveStep =>
    rw [List.cons_append, sumOver_cons, sumOver_cons, inductiveStep]
    omega

theorem sumOver_map (change : β → α) (list : List β) :
    sumOver part (list.map change) = sumOver (part ∘ change) list := by
  unfold sumOver
  rw [List.foldr_map]
  rfl

/-- A change of one member changes one term of the sum. -/
theorem sumOver_modify (change : α → α) {list : List α} {index : Nat} {old : α}
    (here : list[index]? = some old) :
    sumOver part (list.modify index change) + part old =
      sumOver part list + part (change old) := by
  induction list generalizing index with
  | nil => cases here
  | cons first rest inductiveStep =>
    cases index with
    | zero =>
      cases here
      rw [List.modify_zero_cons, sumOver_cons, sumOver_cons]
      omega
    | succ index =>
      have later := inductiveStep here
      rw [List.modify_succ_cons, sumOver_cons, sumOver_cons]
      omega

/-- To count is to sum up ones and zeros. -/
theorem countP_eq_sumOver (counted : α → Bool) (list : List α) :
    list.countP counted = sumOver (fun member => (counted member).toNat) list := by
  induction list with
  | nil => rfl
  | cons member rest inductiveStep =>
    rw [List.countP_cons, sumOver_cons, inductiveStep, Nat.add_comm]
    cases counted member <;> rfl

theorem countP_flatMap (counted : β → Bool) (members : α → List β) (list : List α) :
    (list.flatMap members).countP counted =
      sumOver (fun member => (members member).countP counted) list := by
  induction list with
  | nil => rfl
  | cons first rest inductiveStep =>
    rw [List.flatMap_cons, List.countP_append, inductiveStep, sumOver_cons]

end Sum

end ClassRuntime

import ClassRuntime.Table

namespace ClassRuntime
namespace Table

/-!
# Keys of tables

The keys of a table are those that have a value, so that a table with finitely
many entries has finitely many keys with values.  As long as nothing but
insertions make a table, no key occurs twice.
-/

variable {κ α : Type} [DecidableEq κ]

theorem mem_keys_of_find? {table : Table κ α} {key : κ} {value : α}
    (found : table.find? key = some value) : key ∈ table.keys := by
  rcases table with ⟨entries⟩
  simp only [find?, keys] at found ⊢
  induction entries with
  | nil => cases found
  | cons entry rest inductiveStep =>
    rw [List.map_cons, List.mem_cons]
    by_cases same : entry.1 = key
    · exact Or.inl same.symm
    · rw [valueAt?, if_neg same] at found
      exact Or.inr (inductiveStep found)

theorem mem_keys_iff {table : Table κ α} {key : κ} :
    key ∈ table.keys ↔ (table.find? key).isSome := by
  constructor
  · rcases table with ⟨entries⟩
    simp only [find?, keys]
    intro listed
    induction entries with
    | nil => cases listed
    | cons entry rest inductiveStep =>
      rw [valueAt?]
      split
      · rfl
      next different =>
        rw [List.map_cons, List.mem_cons] at listed
        exact inductiveStep (listed.resolve_left (Ne.symm different))
  · intro known
    exact mem_keys_of_find? (Option.some_get known).symm

theorem keys_insert_of_mem {table : Table κ α} {key : κ} (listed : key ∈ table.keys)
    (value : α) : (table.insert key value).keys = table.keys := by
  rcases table with ⟨entries⟩
  simp only [insert, keys] at listed ⊢
  induction entries with
  | nil => cases listed
  | cons entry rest inductiveStep =>
    rw [insertEntry]
    split
    next same => rw [List.map_cons, List.map_cons, same]
    next different =>
      rw [List.map_cons, List.mem_cons] at listed
      rw [List.map_cons, List.map_cons,
        inductiveStep (listed.resolve_left (Ne.symm different))]

/-- A key that has been missing is added behind the others. -/
theorem keys_insert_of_notMem {table : Table κ α} {key : κ} (missing : key ∉ table.keys)
    (value : α) : (table.insert key value).keys = table.keys ++ [key] := by
  rcases table with ⟨entries⟩
  simp only [insert, keys] at missing ⊢
  induction entries with
  | nil => rfl
  | cons entry rest inductiveStep =>
    rw [List.map_cons, List.mem_cons, not_or] at missing
    rw [insertEntry, if_neg (Ne.symm missing.1), List.map_cons, inductiveStep missing.2]
    rfl

theorem nodup_keys_insert {table : Table κ α} (distinct : table.keys.Nodup) (key : κ)
    (value : α) : (table.insert key value).keys.Nodup := by
  by_cases listed : key ∈ table.keys
  · rw [keys_insert_of_mem listed]
    exact distinct
  · rw [keys_insert_of_notMem listed]
    refine List.nodup_append.2 ⟨distinct, List.pairwise_singleton _ key, ?_⟩
    rintro other member _ single rfl
    exact listed (List.mem_singleton.1 single ▸ member)

omit [DecidableEq κ] in
theorem length_keys (table : Table κ α) : table.keys.length = table.size :=
  List.length_map _

end Table
end ClassRuntime

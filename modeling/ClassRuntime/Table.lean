namespace ClassRuntime

/-!
# Tables

A table keeps at most one value for each key, in the order in which the keys
were first inserted.  It is seen through `find?`; inserting changes the value
of one key and no other.
-/

/-- Values by key. -/
structure Table (κ α : Type) where
  entries : List (κ × α)
  deriving Inhabited

namespace Table

variable {κ α : Type}

/-- The table without entries. -/
def empty : Table κ α := ⟨[]⟩

/-- The keys, oldest first. -/
def keys (table : Table κ α) : List κ := table.entries.map (·.1)

/-- The number of keys. -/
def size (table : Table κ α) : Nat := table.entries.length

/-- The table with every value changed. -/
def map {β : Type} (change : α → β) (table : Table κ α) : Table κ β :=
  ⟨table.entries.map fun (key, value) => (key, change value)⟩

variable [DecidableEq κ]

/-- The value in the first entry with the key. -/
def valueAt? (key : κ) : List (κ × α) → Option α
  | [] => none
  | (other, value) :: rest => if other = key then some value else valueAt? key rest

/-- The entries with the value of one key set. -/
def insertEntry (key : κ) (value : α) : List (κ × α) → List (κ × α)
  | [] => [(key, value)]
  | (other, old) :: rest =>
    if other = key then (key, value) :: rest else (other, old) :: insertEntry key value rest

/-- The value of a key. -/
def find? (table : Table κ α) (key : κ) : Option α := valueAt? key table.entries

/-- The table with the value of one key set. -/
def insert (table : Table κ α) (key : κ) (value : α) : Table κ α :=
  ⟨insertEntry key value table.entries⟩

/-- The table of a list of entries, of which the last one for a key counts. -/
def ofList (entries : List (κ × α)) : Table κ α :=
  entries.foldl (fun table (key, value) => table.insert key value) empty

@[simp] theorem find?_empty (key : κ) : (empty : Table κ α).find? key = none := rfl

theorem find?_insert (table : Table κ α) (key other : κ) (value : α) :
    (table.insert key value).find? other =
      if key = other then some value else table.find? other := by
  obtain ⟨entries⟩ := table
  simp only [find?, insert]
  induction entries with
  | nil => simp [insertEntry, valueAt?]
  | cons entry rest inductive_step =>
    by_cases same : entry.1 = key <;> by_cases sought : entry.1 = other <;>
      grind [insertEntry, valueAt?]

@[simp] theorem find?_insert_self (table : Table κ α) (key : κ) (value : α) :
    (table.insert key value).find? key = some value := by
  simp [find?_insert]

theorem find?_map {β : Type} (change : α → β) (table : Table κ α) (key : κ) :
    (table.map change).find? key = (table.find? key).map change := by
  obtain ⟨entries⟩ := table
  simp only [find?, map]
  induction entries with
  | nil => rfl
  | cons entry rest inductive_step =>
    by_cases same : entry.1 = key <;> simp [valueAt?, same, inductive_step]

end Table
end ClassRuntime

import ClassRuntime.ClassName.Array
import Mathlib.Data.List.Basic

namespace ClassRuntime
namespace ClassName

/-!
# The two spellings of an array name

A name that is read as that of an array has been written, unless it puts a
primitive keyword or an array name between `L` and the semicolon.  So the arrays of
primitive types and of arrays have two spellings each.  The array of `void` is
written in a way that is not read, but it has the other spelling, and that one is.

Writing tells all names apart.  Apart from that of `void` only the array of the empty
name is not read back; all other arrays are, as those of the components for which they
have been written.
-/

/-- The name that is made of a component between `L` and a semicolon, whatever the
component is. -/
def spelledOut (component : ClassName) : ClassName :=
  String.ofList ('[' :: 'L' :: component.toList ++ [';'])

theorem arrayOf_of_plain {component : ClassName} (notPrimitive : ¬ component.isPrimitive)
    (notArray : ¬ component.isArray) : component.arrayOf = component.spelledOut := by
  have unknown : Primitive.ofKeyword? component = none := by
    cases read : Primitive.ofKeyword? component with
    | none => rfl
    | some primitive =>
      refine absurd (isPrimitive_iff.2 ⟨primitive, ?_⟩) notPrimitive
      exact Primitive.ofKeyword?_eq_some_iff.1 read
  rw [arrayOf, if_neg notArray, unknown, spelledOut]

theorem arrayOf_primitive (primitive : Primitive) :
    arrayOf primitive.keyword = String.ofList ['[', primitive.letter] := by
  rw [arrayOf, if_neg (not_isArray_of_isPrimitive (isPrimitive_keyword primitive)),
    Primitive.ofKeyword?_keyword]

theorem isArray_arrayOf (name : ClassName) : name.arrayOf.isArray := by
  unfold arrayOf
  split
  · simp [isArray]
  · split
    · simp [isArray]
    · simp [isArray]

/-- There are no arrays of `void`. -/
theorem component?_arrayOf_void : (arrayOf Primitive.void.keyword).component? = none := by
  decide

/-- Names that are read have been written in one of the two ways. -/
theorem spelled_of_component? {name component : ClassName}
    (read : name.component? = some component) :
    name = component.arrayOf ∨
      (component.isPrimitive ∨ component.isArray) ∧ name = component.spelledOut := by
  unfold component? at read
  rcases Option.map_eq_some_iff.1 read with ⟨characters, parsed, rfl⟩
  unfold componentCharacters at parsed
  split at parsed
  next rest shape =>
    -- The component is an array, and a bracket is put before its name.
    cases parsed
    refine Or.inl ?_
    rw [arrayOf, if_pos (by simp [isArray]), String.toList_ofList, ← shape, String.ofList_toList]
  next rest shape =>
    split at parsed
    next closed =>
      cases parsed
      have ending : rest.dropLast ++ [';'] = rest :=
        List.dropLast_append_getLast? ';' closed.1
      have spelled : name = spelledOut (String.ofList rest.dropLast) := by
        rw [spelledOut, String.toList_ofList, List.cons_append, List.cons_append, ending, ← shape,
          String.ofList_toList]
      by_cases special : isPrimitive (String.ofList rest.dropLast) ∨
          isArray (String.ofList rest.dropLast)
      · exact Or.inr ⟨special, spelled⟩
      · rw [not_or] at special
        rw [arrayOf_of_plain special.1 special.2]
        exact Or.inl spelled
    next => cases parsed
  next letter shape =>
    rcases Option.map_eq_some_iff.1 parsed with ⟨type, known, rfl⟩
    refine Or.inl ?_
    have keyword := arrayOf_primitive (.value type)
    rw [String.ofList_toList]
    refine Eq.trans ?_ keyword.symm
    rw [Primitive.letter, ← BaseType.ofLetter?_eq_some_iff.1 known, ← shape, String.ofList_toList]
  next => cases parsed

/-- A name that is written is read back.  Only the names that are written for the empty name
and for `void` are not read at all. -/
theorem component?_arrayOf {component : ClassName} (named : component ≠ "")
    (valued : component ≠ Primitive.void.keyword) :
    component.arrayOf.component? = some component := by
  by_cases array : component.isArray
  · rw [arrayOf, if_pos array, component?, String.toList_ofList]
    rcases spelled : component.toList with _ | ⟨first, rest⟩
    · simp [isArray, spelled] at array
    · simp only [isArray, spelled, List.head?_cons, Option.some.injEq, decide_eq_true_eq] at array
      subst array
      rw [componentCharacters, Option.map_some, ← spelled, String.ofList_toList]
  · cases keyword : Primitive.ofKeyword? component with
    | some primitive =>
      rw [Primitive.ofKeyword?_eq_some_iff] at keyword
      subst keyword
      cases primitive with
      | void => exact absurd rfl valued
      | value type => cases type <;> decide
    | none =>
      have occupied : component.toList ≠ [] := by simpa using named
      rw [arrayOf, if_neg array, keyword, component?, String.toList_ofList]
      simp [componentCharacters, occupied]

theorem component?_arrayOf_empty : (arrayOf "").component? = none := by
  decide

/-- A name that is written is read back, if it is read at all. -/
theorem eq_of_component?_arrayOf {name component : ClassName}
    (read : name.arrayOf.component? = some component) : component = name := by
  have named : name ≠ "" := by
    rintro rfl
    rw [component?_arrayOf_empty] at read
    cases read
  have valued : name ≠ Primitive.void.keyword := by
    rintro rfl
    rw [component?_arrayOf_void] at read
    cases read
  rw [component?_arrayOf named valued] at read
  exact (Option.some.inj read).symm

theorem eq_of_component?_arrayOf_eq_none {name : ClassName}
    (unread : name.arrayOf.component? = none) : name = "" ∨ name = Primitive.void.keyword := by
  by_contra neither
  rw [not_or] at neither
  rw [component?_arrayOf neither.1 neither.2] at unread
  cases unread

/-- Different components have different arrays.  What is read back tells them apart, and the
two names that are not read are not the same. -/
theorem arrayOf_injective : Function.Injective arrayOf := by
  intro name other same
  cases read : name.arrayOf.component? with
  | some component =>
    have readOther := same ▸ read
    rw [← eq_of_component?_arrayOf read, ← eq_of_component?_arrayOf readOther]
  | none =>
    have unread := same ▸ read
    rcases eq_of_component?_arrayOf_eq_none read with rfl | rfl
    · rcases eq_of_component?_arrayOf_eq_none unread with rfl | rfl
      · rfl
      · exact absurd same (by decide)
    · rcases eq_of_component?_arrayOf_eq_none unread with rfl | rfl
      · exact absurd same (by decide)
      · rfl

/-! ## Writing what has been read -/

theorem spelledOut_eq (component : ClassName) :
    component.spelledOut = "[L" ++ component ++ ";" := by
  rw [← String.toList_inj]
  simp [spelledOut]

theorem arrayOf_of_isArray {component : ClassName} (array : component.isArray) :
    component.arrayOf = "[" ++ component := by
  rw [arrayOf, if_pos array, ← String.toList_inj]
  simp

/-- The other spelling of the arrays of primitive types and of arrays is not the one that is
written. -/
theorem arrayOf_ne_spelledOut {component : ClassName}
    (special : component.isPrimitive ∨ component.isArray) :
    component.arrayOf ≠ component.spelledOut := by
  intro same
  rw [← String.toList_inj, spelledOut, String.toList_ofList] at same
  rcases special with keyword | array
  · obtain ⟨primitive, rfl⟩ := isPrimitive_iff.1 keyword
    rw [arrayOf_primitive, String.toList_ofList] at same
    simpa using congrArg List.length same
  · rw [arrayOf, if_pos array, String.toList_ofList] at same
    rcases spelled : component.toList with _ | ⟨first, rest⟩
    · simp [isArray, spelled] at array
    · simp [isArray, spelled] at array same
      simp [array] at same

/-- A name that is read is the one that is written, unless it is the other spelling. -/
theorem arrayOf_ne_iff {name component : ClassName} (read : name.component? = some component) :
    component.arrayOf ≠ name ↔
      name = component.spelledOut ∧ (component.isPrimitive ∨ component.isArray) := by
  constructor
  · intro different
    rcases spelled_of_component? read with written | ⟨special, spelled⟩
    · exact absurd written.symm different
    · exact ⟨spelled, special⟩
  · rintro ⟨rfl, special⟩
    exact arrayOf_ne_spelledOut special

/-- A component has a shorter name than its array, unless a letter stands for its keyword. -/
theorem length_component? {name component : ClassName} (read : name.component? = some component) :
    component.length < name.length ∧ component.utf8ByteSize < name.utf8ByteSize ∨
      ∃ type : BaseType, name = String.ofList ['[', type.letter] ∧ component = type.keyword := by
  have shorter : component.length < component.spelledOut.length ∧
      component.utf8ByteSize < component.spelledOut.utf8ByteSize := by
    have bracket : 0 < "[L".length ∧ 0 < "[L".utf8ByteSize := by decide
    rw [spelledOut_eq]
    simp only [String.length_append, String.utf8ByteSize_append]
    omega
  rcases spelled_of_component? read with rfl | ⟨_, rfl⟩
  · by_cases array : component.isArray
    · apply Or.inl
      have bracket : 0 < "[".length ∧ 0 < "[".utf8ByteSize := by decide
      rw [arrayOf_of_isArray array]
      simp only [String.length_append, String.utf8ByteSize_append]
      omega
    · by_cases keyword : component.isPrimitive
      · obtain ⟨primitive, rfl⟩ := isPrimitive_iff.1 keyword
        cases primitive with
        | void =>
          rw [component?_arrayOf_void] at read
          cases read
        | value type => exact .inr ⟨type, arrayOf_primitive (.value type), rfl⟩
      · rw [arrayOf_of_plain keyword array]
        exact .inl shorter
  · exact .inl shorter

/-- Writing and reading array names undo each other, as far as they can.  What is written for
a name other than the empty one and `void` is read back, and different names are written
differently.  What is read has a component with a shorter name, or it is a bracket with the
letter of a primitive type.  It is what is written for its component, except when the
component is a primitive type or an array and stands between `L` and a semicolon. -/
theorem arrayOf_component?_inverse :
    (∀ component : ClassName, component ≠ "" → component ≠ "void" →
      component.arrayOf.component? = some component) ∧
    Function.Injective arrayOf ∧
    ∀ name component : ClassName, name.component? = some component →
      (component.length < name.length ∧ component.utf8ByteSize < name.utf8ByteSize ∨
        ∃ type : BaseType, name = String.ofList ['[', type.letter] ∧ component = type.keyword) ∧
      (component.arrayOf ≠ name ↔
        name = "[L" ++ component ++ ";" ∧ (component.isPrimitive ∨ component.isArray)) := by
  refine ⟨fun component named valued => component?_arrayOf named valued, arrayOf_injective, ?_⟩
  intro name component read
  refine ⟨length_component? read, ?_⟩
  rw [← spelledOut_eq]
  exact arrayOf_ne_iff read

/-- Where the spellings overlap: an object name that begins with `L` and ends in a semicolon,
an array in the other spelling, and a primitive type in both. -/
theorem arrayOf_component?_inverse_overlapping :
    ("LI;" ≠ "" ∧ "LI;" ≠ "void" ∧ (arrayOf "LI;").component? = some "LI;") ∧
    (component? "[L[I;" = some "[I" ∧ arrayOf "[I" ≠ "[L[I;") ∧
    (component? "[Lint;" = some "int" ∧ arrayOf "int" ≠ "[Lint;") ∧
    component? "[I" = some "int" ∧ ¬ arrayOf "int" ≠ "[I" := by
  obtain ⟨written, _, read⟩ := arrayOf_component?_inverse
  have nested : component? "[L[I;" = some "[I" := by decide
  have spelled : component? "[Lint;" = some "int" := by decide
  have letter : component? "[I" = some "int" := by decide
  refine ⟨⟨by decide, by decide, written "LI;" (by decide) (by decide)⟩, ⟨nested, ?_⟩,
    ⟨spelled, ?_⟩, letter, ?_⟩
  · exact (read "[L[I;" "[I" nested).2.2 ⟨by decide, .inr (by decide)⟩
  · exact (read "[Lint;" "int" spelled).2.2 ⟨by decide, .inl (by decide)⟩
  · rw [(read "[I" "int" letter).2]
    decide

end ClassName
end ClassRuntime

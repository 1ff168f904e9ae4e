import ClassRuntime.MethodDescriptor.Parser

namespace ClassRuntime

/-!
# Types read from the front of a text

A type is printed so that its end can be seen, as long as its class name is not
empty and has no semicolon in it.  What is read is exactly what such a type prints,
and the rest of the text stays as it was.  Any other character may stand in the
name, a bracket, a parenthesis or a letter that begins a type.
-/

namespace FieldType

/-- The class names in a type, however deep they are. -/
def names : FieldType → List ClassName
  | .base _ => []
  | .object name => [name]
  | .array component => component.names

/-- A type whose end can be seen in a text. -/
def Delimited (type : FieldType) : Prop :=
  ∀ name ∈ type.names, name ≠ "" ∧ ';' ∉ name.toList

theorem delimited_array {component : FieldType} :
    (array component).Delimited ↔ component.Delimited :=
  Iff.rfl

theorem delimited_object {name : ClassName} :
    (object name).Delimited ↔ name ≠ "" ∧ ';' ∉ name.toList := by
  simp [Delimited, names]

theorem delimited_base {type : BaseType} : (base type).Delimited := by
  simp [Delimited, names]

/-- No letter of a base type begins another kind of type. -/
theorem parse?_base (type : BaseType) (after : List Char) :
    parse? (type.letter :: after) = some (.base type, after) := by
  cases type <;> rfl

theorem parse?_characters {type : FieldType} (delimited : type.Delimited) (after : List Char) :
    parse? (type.characters ++ after) = some (type, after) := by
  induction type with
  | base type => exact parse?_base type after
  | object name =>
    rw [delimited_object] at delimited
    have split := Text.splitFirst_append ';' name.toList after delimited.2
    have shape : (object name).characters ++ after = 'L' :: (name.toList ++ ';' :: after) := by
      simp [characters]
    rw [shape, parse?, split]
    cases spelled : name.toList with
    | nil => exact absurd (String.toList_eq_nil_iff.1 spelled) delimited.1
    | cons first rest =>
      dsimp only
      rw [← spelled, String.ofList_toList]
  | array component inner =>
    rw [characters, List.cons_append, parse?, inner (delimited_array.1 delimited)]
    rfl

theorem characters_of_parse? {text after : List Char} {type : FieldType}
    (read : parse? text = some (type, after)) :
    text = type.characters ++ after ∧ type.Delimited := by
  fun_induction parse? text generalizing type after with
  | case1 => cases read
  | case2 rest inner =>
    obtain ⟨⟨component, remaining⟩, found, same⟩ := Option.map_eq_some_iff.1 read
    cases same
    obtain ⟨shape, delimited⟩ := inner found
    refine ⟨?_, delimited_array.2 delimited⟩
    rw [characters, List.cons_append, ← shape]
  | case3 => cases read
  | case4 => cases read
  | case5 rest name remaining nonempty split =>
    cases read
    obtain ⟨shape, absent⟩ := Text.eq_of_splitFirst split
    refine ⟨?_, delimited_object.2 ⟨?_, ?_⟩⟩
    · simp [characters, shape]
    · intro empty
      exact nonempty (String.ofList_eq_empty_iff.1 empty)
    · rwa [String.toList_ofList]
  | case6 letter rest =>
    obtain ⟨base, known, same⟩ := Option.map_eq_some_iff.1 read
    cases same
    refine ⟨?_, delimited_base⟩
    rw [characters, BaseType.ofLetter?_eq_some_iff.1 known, List.singleton_append]

theorem parse?_eq_some_iff {text after : List Char} {type : FieldType} :
    parse? text = some (type, after) ↔ text = type.characters ++ after ∧ type.Delimited := by
  constructor
  · exact characters_of_parse?
  · rintro ⟨rfl, delimited⟩
    exact parse?_characters delimited after

theorem parseAll?_nil : parseAll? [] = some [] := by
  rw [parseAll?, if_pos rfl]

theorem parseAll?_of_parse?_none {text : List Char} (nonempty : text ≠ [])
    (bad : parse? text = none) : parseAll? text = none := by
  rw [parseAll?, if_neg nonempty]
  split
  next => rfl
  next read => rw [bad] at read; cases read

/-- Reading goes on after the first type. -/
theorem parseAll?_of_parse? {text after : List Char} {type : FieldType}
    (first : parse? text = some (type, after)) :
    parseAll? text = (parseAll? after).map (type :: ·) := by
  have nonempty : text ≠ [] := by
    rintro rfl
    cases first
  rw [parseAll?.eq_def text, if_neg nonempty]
  split
  next bad => rw [first] at bad; cases bad
  next read => rw [first] at read; cases read; rfl

theorem parseAll?_eq_some_iff {text : List Char} {types : List FieldType} :
    parseAll? text = some types ↔
      text = types.flatMap characters ∧ ∀ type ∈ types, type.Delimited := by
  constructor
  · intro read
    fun_induction parseAll? text generalizing types with
    | case1 => cases read; simp
    | case2 => cases read
    | case3 text _ type after first _ onward =>
      obtain ⟨others, known, rfl⟩ := Option.map_eq_some_iff.1 read
      obtain ⟨shape, delimited⟩ := characters_of_parse? first
      obtain ⟨rest, allDelimited⟩ := onward known
      rw [List.flatMap_cons, ← rest]
      exact ⟨shape, List.forall_mem_cons.2 ⟨delimited, allDelimited⟩⟩
  · rintro ⟨rfl, delimited⟩
    induction types with
    | nil => exact parseAll?_nil
    | cons type others onward =>
      rw [List.forall_mem_cons] at delimited
      rw [List.flatMap_cons, parseAll?_of_parse? (parse?_characters delimited.1 _),
        onward delimited.2]
      rfl

/-- What a type prints besides its class name is no parenthesis. -/
theorem close_mem_characters {type : FieldType} :
    ')' ∈ type.characters ↔ ∃ name ∈ type.names, ')' ∈ name.toList := by
  induction type with
  | base type => cases type <;> simp [characters, names, BaseType.letter]
  | object name => simp [characters, names]
  | array component inner => simp [characters, names, inner]

end FieldType
end ClassRuntime

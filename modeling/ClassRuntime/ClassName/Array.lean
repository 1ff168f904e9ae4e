import ClassRuntime.ClassName.Form

namespace ClassRuntime
namespace ClassName

/-!
# Array names

The array of an array repeats the bracket, the array of a primitive type takes
its descriptor letter, and the array of any other class puts the class name
between `L` and a semicolon.  Reading back is more generous than writing: a
primitive keyword or an array name between `L` and the semicolon is read as
the component all the same.
-/

/-- Whether the name is that of an array class, well formed or not. -/
def isArray (name : ClassName) : Bool :=
  name.toList.head? = some '['

/-- The name of the array class with the given component. -/
def arrayOf (component : ClassName) : ClassName :=
  if component.isArray then String.ofList ('[' :: component.toList)
  else
    match Primitive.ofKeyword? component with
    | some primitive => String.ofList ['[', primitive.letter]
    | none => String.ofList ('[' :: 'L' :: component.toList ++ [';'])

/-- The component named by the characters of an array name. -/
def componentCharacters : List Char → Option (List Char)
  | '[' :: '[' :: rest => some ('[' :: rest)
  | '[' :: 'L' :: rest =>
    if rest.getLast? = some ';' ∧ rest.dropLast ≠ [] then some rest.dropLast else none
  | ['[', letter] => (BaseType.ofLetter? letter).map fun type => type.keyword.toList
  | _ => none

/-- The name of the component of a well-formed array name.  There are no
arrays of `void`. -/
def component? (name : ClassName) : Option ClassName :=
  (componentCharacters name.toList).map String.ofList

/-- How long the chain of components below a name can be: the length of an
array name, and zero for any other name. -/
def nesting (name : ClassName) : Nat :=
  if name.isArray then name.toList.length else 0

private theorem keyword_not_bracket (type : BaseType) :
    type.keyword.toList.head? ≠ some '[' := by
  cases type <;> decide

theorem nesting_component? {name component : ClassName}
    (found : name.component? = some component) : component.nesting < name.nesting := by
  unfold component? at found
  obtain ⟨characters, read, rfl⟩ := Option.map_eq_some_iff.1 found
  unfold componentCharacters at read
  split at read
  next rest equal =>
    cases read
    simp [nesting, isArray, equal]
  next rest equal =>
    split at read
    next closed =>
      cases read
      simp only [nesting, isArray, equal, String.toList_ofList]
      split
      · simp
        omega
      · simp
    next => cases read
  next letter equal =>
    obtain ⟨type, _, rfl⟩ := Option.map_eq_some_iff.1 read
    simp [nesting, isArray, equal, keyword_not_bracket]
  next => cases read

theorem not_isArray_of_isPrimitive {name : ClassName} (keyword : name.isPrimitive) :
    ¬ name.isArray := by
  rcases isPrimitive_iff.1 keyword with ⟨primitive, rfl⟩
  cases primitive with
  | void => decide
  | value type => cases type <;> decide

theorem isArray_of_component? {name component : ClassName}
    (found : name.component? = some component) : name.isArray := by
  have deeper := nesting_component? found
  by_cases array : name.isArray
  · exact array
  · rw [nesting.eq_def name, if_neg array] at deeper
    exact absurd deeper (Nat.not_lt_zero _)

end ClassName
end ClassRuntime

import ClassRuntime.ClassName.Primitive

namespace ClassRuntime

/-!
# Forms of a class name

A class is kept under its internal name: packages are separated by slashes, an
array name starts with a bracket, and a primitive type goes by its keyword.
Programs see the binary name, which separates packages by dots.  A member
class carries the name of its enclosing class before the last dollar sign.
-/

/-- The text under which a class is known. -/
abbrev ClassName := String

namespace ClassName

/-- Every occurrence of one character exchanged for another. -/
def exchange (old new : Char) (text : String) : String :=
  String.ofList (text.toList.map fun character => if character = old then new else character)

/-- The form under which classes are kept. -/
def internal (name : ClassName) : ClassName :=
  exchange '.' '/' name

/-- The form that programs see. -/
def binary (name : ClassName) : ClassName :=
  exchange '/' '.' name

/-- Whether the name is the keyword of a primitive type. -/
def isPrimitive (name : ClassName) : Bool :=
  (Primitive.ofKeyword? name).isSome

theorem isPrimitive_keyword (primitive : Primitive) : isPrimitive primitive.keyword :=
  Option.isSome_iff_exists.2 ⟨primitive, Primitive.ofKeyword?_keyword primitive⟩

theorem isPrimitive_iff {name : ClassName} :
    isPrimitive name ↔ ∃ primitive : Primitive, name = primitive.keyword := by
  rw [isPrimitive, Option.isSome_iff_exists]
  simp only [Primitive.ofKeyword?_eq_some_iff]

/-- What stands before the last occurrence of the mark. -/
def beforeLast (mark : Char) : List Char → Option (List Char)
  | [] => none
  | first :: rest =>
    match beforeLast mark rest with
    | some initial => some (first :: initial)
    | none => if first = mark then some [] else none

/-- The name of the class of which the named class is a member. -/
def enclosing? (name : ClassName) : Option ClassName :=
  (beforeLast '$' name.toList).map String.ofList

end ClassName

end ClassRuntime

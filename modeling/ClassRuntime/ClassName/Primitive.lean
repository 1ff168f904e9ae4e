namespace ClassRuntime

/-!
# Primitive types

Eight base types have values, and `void` stands for their absence.  Each of
the nine has a keyword, which is also the name of its class, and a descriptor
letter.
-/

/-- The types whose values are not references. -/
inductive BaseType where
  | boolean
  | byte
  | char
  | short
  | int
  | long
  | float
  | double
  deriving DecidableEq, Inhabited

namespace BaseType

/-- All base types, in the order in which their classes are predefined. -/
def all : List BaseType :=
  [.boolean, .byte, .char, .short, .int, .long, .float, .double]

/-- The word for the type in source text. -/
def keyword : BaseType → String
  | .boolean => "boolean"
  | .byte => "byte"
  | .char => "char"
  | .short => "short"
  | .int => "int"
  | .long => "long"
  | .float => "float"
  | .double => "double"

/-- The letter for the type in descriptors. -/
def letter : BaseType → Char
  | .boolean => 'Z'
  | .byte => 'B'
  | .char => 'C'
  | .short => 'S'
  | .int => 'I'
  | .long => 'J'
  | .float => 'F'
  | .double => 'D'

/-- The base type with the given descriptor letter. -/
def ofLetter? : Char → Option BaseType
  | 'Z' => some .boolean
  | 'B' => some .byte
  | 'C' => some .char
  | 'S' => some .short
  | 'I' => some .int
  | 'J' => some .long
  | 'F' => some .float
  | 'D' => some .double
  | _ => none

theorem ofLetter?_letter (type : BaseType) : ofLetter? type.letter = some type := by
  cases type <;> rfl

theorem ofLetter?_eq_some_iff {letter : Char} {type : BaseType} :
    ofLetter? letter = some type ↔ letter = type.letter := by
  constructor
  · intro read
    unfold ofLetter? at read
    split at read <;> cases read <;> rfl
  · intro equal
    rw [equal, ofLetter?_letter]

end BaseType

/-- The nine types that are named by a keyword. -/
inductive Primitive where
  | void
  | value (type : BaseType)
  deriving DecidableEq, Inhabited

namespace Primitive

/-- All primitive types, `void` first. -/
def all : List Primitive :=
  .void :: BaseType.all.map .value

/-- The word for the type in source text. -/
def keyword : Primitive → String
  | .void => "void"
  | .value type => type.keyword

/-- The letter for the type in descriptors. -/
def letter : Primitive → Char
  | .void => 'V'
  | .value type => type.letter

/-- The primitive type with the given keyword. -/
def ofKeyword? (word : String) : Option Primitive :=
  all.find? fun primitive => primitive.keyword == word

/-- The primitive type with the given descriptor letter. -/
def ofLetter? (letter : Char) : Option Primitive :=
  if letter = 'V' then some .void else (BaseType.ofLetter? letter).map .value

theorem ofLetter?_letter (primitive : Primitive) :
    ofLetter? primitive.letter = some primitive := by
  cases primitive with
  | void => rfl
  | value type => cases type <;> rfl

theorem ofKeyword?_keyword (primitive : Primitive) :
    ofKeyword? primitive.keyword = some primitive := by
  cases primitive with
  | void => decide
  | value type => cases type <;> decide

theorem ofKeyword?_eq_some_iff {word : String} {primitive : Primitive} :
    ofKeyword? word = some primitive ↔ word = primitive.keyword := by
  constructor
  · intro found
    have matching := List.find?_some found
    exact (beq_iff_eq.1 matching).symm
  · intro equal
    rw [equal, ofKeyword?_keyword]

end Primitive

end ClassRuntime

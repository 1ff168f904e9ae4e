import ClassRuntime.ClassName.Form

namespace ClassRuntime

/-!
# Method descriptors

A method descriptor lists the types of the parameters between parentheses and
then the type of the result, `V` if there is none.  A calling convention only
distinguishes the category of a value.
-/

/-- The type of a parameter or result. -/
inductive FieldType where
  | base (type : BaseType)
  | object (name : ClassName)
  | array (component : FieldType)
  deriving DecidableEq, Inhabited

/-- What a calling convention distinguishes. -/
inductive Category where
  | void
  | int
  | long
  | float
  | double
  | reference
  deriving DecidableEq, Inhabited

/-- The word for the category in messages. -/
def Category.name : Category → String
  | .void => "Void"
  | .int => "Int"
  | .long => "Long"
  | .float => "Float"
  | .double => "Double"
  | .reference => "Reference"

/-- Small integers are passed as `int`. -/
def BaseType.category : BaseType → Category
  | .long => .long
  | .float => .float
  | .double => .double
  | _ => .int

namespace FieldType

/-- How values of the type are passed. -/
def category : FieldType → Category
  | .base type => type.category
  | .object _ => .reference
  | .array _ => .reference

/-- The characters of the type in a descriptor. -/
def characters : FieldType → List Char
  | .base type => [type.letter]
  | .object name => 'L' :: name.toList ++ [';']
  | .array component => '[' :: component.characters

/-- The type as it stands in a descriptor. -/
def text (type : FieldType) : String :=
  String.ofList type.characters

end FieldType

/-- The types of the parameters and of the result, which a method without a
result lacks. -/
structure MethodDescriptor where
  parameters : List FieldType
  result : Option FieldType
  deriving DecidableEq, Inhabited

namespace MethodDescriptor

/-- The category of the result. -/
def resultCategory (descriptor : MethodDescriptor) : Category :=
  descriptor.result.elim .void FieldType.category

/-- The number of values that a completed call leaves behind. -/
def resultCount (descriptor : MethodDescriptor) : Nat :=
  if descriptor.result.isSome then 1 else 0

/-- The characters of the result. -/
def resultCharacters : Option FieldType → List Char
  | none => ['V']
  | some type => type.characters

/-- The descriptor as text. -/
def text (descriptor : MethodDescriptor) : String :=
  String.ofList ('(' :: descriptor.parameters.flatMap FieldType.characters ++
    ')' :: resultCharacters descriptor.result)

end MethodDescriptor
end ClassRuntime

import ClassRuntime.Handle
import ClassRuntime.MethodDescriptor.Basic
import ClassRuntime.Text.Quoted

namespace ClassRuntime

/-!
# Values and objects

A value is a number or a reference.  Objects do not change once they are made,
so a reference can hold the object itself; which object it is, is told by an
identity that no other object has.  Floating-point values are only passed on
and compared, and are kept as bit patterns.
-/

/-- The runtime that made an object, and the place of the object among those
it made. -/
structure ObjectId where
  runtime : Nat
  index : Nat
  deriving DecidableEq, Inhabited

/-- What an object of a reflective class stands for. -/
inductive Subject where
  /-- The class that a class mirror stands for. -/
  | mirror (id : ClassId)
  /-- The loader that a loader handle stands for. -/
  | handle (id : LoaderId)
  /-- The class to which a constant pool belongs. -/
  | pool (id : ClassId)
  deriving DecidableEq, Inhabited

/-- The subject in words. -/
def Subject.text : Subject → String
  | .mirror id => Text.wrapped "Class" id.text
  | .handle id => Text.wrapped "Loader" id.text
  | .pool id => Text.wrapped "ConstantPool" id.text

/-- An object with its identity and the class of which it is an instance. -/
inductive Object where
  | plain (id : ObjectId) (type : ClassId) (subject : Option Subject)
  | text (id : ObjectId) (type : ClassId) (content : String)
  | array (id : ObjectId) (type : ClassId) (elements : List (Option Object))

/-- A reference that may be null. -/
abbrev Reference := Option Object

namespace Object

/-- Which object it is. -/
def id : Object → ObjectId
  | .plain id .. => id
  | .text id .. => id
  | .array id .. => id

/-- The class of which the object is an instance. -/
def type : Object → ClassId
  | .plain _ type _ => type
  | .text _ type _ => type
  | .array _ type _ => type

/-- What the object stands for. -/
def subject? : Object → Option Subject
  | .plain _ _ subject => subject
  | .text .. => none
  | .array .. => none

/-- The class that the object mirrors. -/
def mirrored? (object : Object) : Option ClassId :=
  match object.subject? with
  | some (.mirror id) => some id
  | _ => none

/-- The characters of a string. -/
def content? : Object → Option String
  | .text _ _ content => some content
  | .plain .. => none
  | .array .. => none

/-- The elements of an array. -/
def elements? : Object → Option (List Reference)
  | .array _ _ elements => some elements
  | .plain .. => none
  | .text .. => none

/-- Two references are the same when they are both null or refer to one object. -/
def same : Reference → Reference → Bool
  | none, none => true
  | some left, some right => left.id = right.id
  | _, _ => false

mutual

/-- A reference in words, with the given text for the place of an object. -/
def referenceText (place : ObjectId → String) : Option Object → String
  | none => "null"
  | some (.text _ _ content) => Text.quoted content
  | some (.array _ _ elements) => Text.list (referenceTexts place elements)
  | some (.plain id _ subject) =>
    "object@" ++ place id ++ subject.elim "" fun subject => " (" ++ subject.text ++ ")"

/-- The elements of an array in words. -/
def referenceTexts (place : ObjectId → String) : List (Option Object) → List String
  | [] => []
  | first :: rest => referenceText place first :: referenceTexts place rest

end

end Object

/-- What a local variable or an operand holds. -/
inductive Value where
  | int (number : Int32)
  | long (number : Int64)
  | float (bits : BitVec 32)
  | double (bits : BitVec 64)
  | reference (target : Reference)

namespace Value

/-- The reference to no object. -/
def null : Value := .reference none

instance : Inhabited Value := ⟨null⟩

/-- Truth values are passed as numbers. -/
def ofBool (truth : Bool) : Value := .int (if truth then 1 else 0)

/-- How the value is passed. -/
def category : Value → Category
  | .int _ => .int
  | .long _ => .long
  | .float _ => .float
  | .double _ => .double
  | .reference _ => .reference

/-- The number that an `int` holds. -/
def int? : Value → Option Int32
  | .int number => some number
  | _ => none

/-- The truth value that an `int` stands for. -/
def bool? (value : Value) : Option Bool :=
  value.int?.map (· != 0)

/-- What a reference refers to. -/
def reference? : Value → Option Reference
  | .reference target => some target
  | _ => none

/-- Equality of floating-point values by their bit patterns, given the pattern
of infinity.  Doubling a pattern drops the sign: what then exceeds infinity is
not a number and equals nothing, and both zeros are equal. -/
def floatingEqual {width : Nat} (infinity left right : BitVec width) : Bool :=
  !(infinity <<< 1).ult (left <<< 1) && !(infinity <<< 1).ult (right <<< 1) &&
    (left = right || (left <<< 1 = 0 && right <<< 1 = 0))

/-- Equality of values.  Values of different categories differ, and references
are equal when they refer to one object. -/
def equal : Value → Value → Bool
  | .int left, .int right => left = right
  | .long left, .long right => left = right
  | .float left, .float right => floatingEqual 0x7f800000 left right
  | .double left, .double right => floatingEqual 0x7ff0000000000000 left right
  | .reference left, .reference right => Object.same left right
  | _, _ => false

end Value
end ClassRuntime

import ClassRuntime.AccessFlags
import ClassRuntime.ClassName.WellKnown
import ClassRuntime.Handle
import ClassRuntime.Text.Quoted

namespace ClassRuntime

/-!
# Type descriptors

What is fixed about a class once it has been linked.  References to other
classes are handles, so a descriptor means something only within its runtime.
-/

/-- What sort of type a class stands for. -/
inductive Kind where
  | ordinary
  | interface
  | array
  | primitive
  deriving DecidableEq, Inhabited

/-- The kind in one word. -/
def Kind.name : Kind → String
  | .ordinary => "Class"
  | .interface => "Interface"
  | .array => "Array"
  | .primitive => "Primitive"

/-- Where the definition of a class was found. -/
inductive Source where
  /-- The search path that is built into the runtime. -/
  | bootPath
  /-- An entry of a user's search path. -/
  | userPath (entry : String)
  deriving DecidableEq, Inhabited

/-- The source in words. -/
def Source.text : Source → String
  | .bootPath => "BootClassPath"
  | .userPath entry => Text.wrapped "ClassPath" (Text.quoted entry)

/-- A method by its name and descriptor. -/
structure MethodReference where
  name : String
  descriptor : String
  deriving DecidableEq, Inhabited

/-- The method reference in words. -/
def MethodReference.text (reference : MethodReference) : String :=
  Text.record "MethodRef"
    [("name", Text.quoted reference.name), ("descriptor", Text.quoted reference.descriptor)]

/-- The class that encloses a local class, and the method if it is not an
initializer. -/
structure Enclosure where
  owner : ClassName
  method : Option MethodReference
  deriving DecidableEq, Inhabited

/-- The enclosure in words. -/
def Enclosure.text (enclosure : Enclosure) : String :=
  Text.record "EnclosingMethod"
    [("class_name", Text.quoted enclosure.owner),
      ("method", Text.optional (enclosure.method.map MethodReference.text))]

/-- What is fixed about a linked class. -/
structure TypeDescriptor where
  /-- The internal name. -/
  name : ClassName
  kind : Kind
  flags : AccessFlags
  superclass : Option ClassId
  /-- The interfaces that the class declares itself, in order. -/
  interfaces : List ClassId
  /-- The component of an array class. -/
  component : Option ClassId
  source : Source
  enclosure : Option Enclosure
  deriving DecidableEq, Inhabited

namespace TypeDescriptor

/-- Whether the class is an array class. -/
def isArray (type : TypeDescriptor) : Bool := type.kind = .array

/-- Whether the class is an interface. -/
def isInterface (type : TypeDescriptor) : Bool := type.kind = .interface

/-- Whether the class is that of a primitive type. -/
def isPrimitive (type : TypeDescriptor) : Bool := type.kind = .primitive

/-- Whether the descriptor, found under the handle, is that of the root. -/
def isRoot (type : TypeDescriptor) (id : ClassId) : Bool :=
  id.loader = .bootstrap && type.kind = .ordinary && type.name = .object

/-- The name that programs see. -/
def binaryName (type : TypeDescriptor) : ClassName := type.name.binary

/-- The name of the class of which this one is a member.  Arrays and
primitive types are members of none. -/
def declaringName? (type : TypeDescriptor) : Option ClassName :=
  match type.kind with
  | .ordinary => type.name.enclosing?
  | .interface => type.name.enclosing?
  | .array => none
  | .primitive => none

/-- The classes from which this one inherits directly, the superclass first. -/
def supertypes (type : TypeDescriptor) : List ClassId :=
  type.superclass.toList ++ type.interfaces

end TypeDescriptor
end ClassRuntime

import ClassRuntime.Class.Descriptor

namespace ClassRuntime

/-!
# Class definitions

What a loader is given before it makes a class of it.  Other classes are named
here and not yet resolved.  The type `ι` is that of static initializers, whose
meaning is supplied by whoever runs them.
-/

/-- A class as it was written. -/
structure ClassDefinition (ι : Type) where
  name : ClassName
  flags : AccessFlags
  superName : Option ClassName
  interfaces : List ClassName
  enclosure : Option Enclosure
  initializer : Option ι
  deriving Inhabited

namespace ClassDefinition

variable {ι : Type}

/-- A public class below the root of the hierarchy. -/
def ordinary (name : ClassName) : ClassDefinition ι where
  name
  flags := .publicFlag ||| .superFlag
  superName := some ClassName.object
  interfaces := []
  enclosure := none
  initializer := none

/-- A public interface. -/
def interface (name : ClassName) : ClassDefinition ι :=
  { ordinary name with
    flags := .publicFlag ||| .interfaceFlag ||| .abstractFlag }

/-- The definition with another superclass. -/
def extending (definition : ClassDefinition ι) (superName : ClassName) : ClassDefinition ι :=
  { definition with superName := some superName }

/-- The definition with further interfaces. -/
def implementing (definition : ClassDefinition ι) (names : List ClassName) :
    ClassDefinition ι :=
  { definition with interfaces := definition.interfaces ++ names }

/-- The definition with other flags. -/
def flagged (definition : ClassDefinition ι) (flags : AccessFlags) : ClassDefinition ι :=
  { definition with flags }

/-- The definition with an enclosing class. -/
def enclosedBy (definition : ClassDefinition ι) (enclosure : Enclosure) : ClassDefinition ι :=
  { definition with enclosure := some enclosure }

/-- Whether an interface is defined. -/
def isInterface (definition : ClassDefinition ι) : Bool :=
  definition.flags.contains .interfaceFlag

/-- The kind of the class that is made of the definition. -/
def kind (definition : ClassDefinition ι) : Kind :=
  if definition.isInterface then .interface else .ordinary

/-- The superclass that linking resolves.  An interface has none. -/
def inheritedName? (definition : ClassDefinition ι) : Option ClassName :=
  if definition.isInterface then none else definition.superName

/-- The definition in words. -/
def text (definition : ClassDefinition ι) : String :=
  Text.record "ClassDef"
    [("name", Text.quoted definition.name),
      ("access_flags", definition.flags.text),
      ("super_name", Text.optional (definition.superName.map Text.quoted)),
      ("interfaces", Text.list (definition.interfaces.map Text.quoted)),
      ("enclosing_method", Text.optional (definition.enclosure.map Enclosure.text)),
      ("static_initializer", toString definition.initializer.isSome)]

end ClassDefinition
end ClassRuntime

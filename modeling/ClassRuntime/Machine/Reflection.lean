import ClassRuntime.Machine.Objects

namespace ClassRuntime
namespace Machine

/-!
# Reflection

What a program can ask about a class.  The answers are objects of the runtime;
classes that an answer mentions are loaded when it is given, through the loader
that defined the class in question.
-/

variable {ι : Type}

/-- The mirror of a class, or null if there is no class. -/
def mirrorOf? : Option ClassId → Action (Machine ι) Reference
  | some id => some <$> mirrorOf id
  | none => pure none

/-- The mirrors of several classes, in order. -/
def mirrorsOf : List ClassId → Action (Machine ι) (List Reference)
  | [] => pure []
  | first :: rest => do
    let mirror ← mirrorOf first
    let mirrors ← mirrorsOf rest
    pure (some mirror :: mirrors)

/-- The handle of the loader that defined the class.  Classes of the boot path
have null instead. -/
def classLoader (id : ClassId) : Action (Machine ι) Reference := do
  let loaded ← getClass id
  if loaded.source = .bootPath then pure none else some <$> handleOf id.loader

/-- The mirror of the component of an array class. -/
def componentType (id : ClassId) : Action (Machine ι) Reference := do
  mirrorOf? (← getClass id).component

/-- The mirror of the superclass. -/
def superclass (id : ClassId) : Action (Machine ι) Reference := do
  mirrorOf? (← getClass id).superclass

/-- The mirrors of the declared interfaces, in order, as an array. -/
def interfaces (id : ClassId) : Action (Machine ι) Object := do
  let mirrors ← mirrorsOf (← getClass id).interfaces
  let component ← load .bootstrap .mirror
  makeArray component mirrors

/-- The mirror of the class of which this one is a member. -/
def declaringClass (id : ClassId) : Action (Machine ι) Reference := do
  match (← getClass id).declaringName? with
  | some name => some <$> (load id.loader name >>= mirrorOf)
  | none => pure none

/-- The name and descriptor of an enclosing method as strings, both null for
an initializer. -/
def methodTexts : Option MethodReference → Action (Machine ι) (Reference × Reference)
  | some reference => do
    let name ← makeText reference.name
    let descriptor ← makeText reference.descriptor
    pure (some name, some descriptor)
  | none => pure (none, none)

/-- What encloses a local class: the mirror of the enclosing class, and the
name and descriptor of the method, as an array of three. -/
def enclosingMethod (id : ClassId) : Action (Machine ι) Reference := do
  match (← getClass id).enclosure with
  | none => pure none
  | some enclosure => do
    let owner ← load id.loader enclosure.owner
    let (name, descriptor) ← methodTexts enclosure.method
    let component ← load .bootstrap .object
    let mirror ← mirrorOf owner
    some <$> makeArray component [some mirror, name, descriptor]

/-- The binary name of the class as a string. -/
def nameText (id : ClassId) : Action (Machine ι) Object := do
  makeText (← getClass id).binaryName

/-- The modifiers of the class as a number. -/
def modifiers (id : ClassId) : Action (Machine ι) Int32 := do
  pure (← getClass id).flags.modifiers

end Machine
end ClassRuntime

import ClassRuntime.Loader.Area

namespace ClassRuntime

/-!
# Loading classes

A loader that is asked for a class answers with what it has found under the
name before.  Otherwise its parent is asked, and only if the parent does not
find the class does the loader define it itself.  To define a class is to load
the classes from which it inherits, through the same loader.  An array class is
never defined from a definition: it is made on demand in the loader that
defined its component.

Linking leads from one definition to others.  A definition that is met again
while it is being linked is circular, so nesting cannot exceed the number of
definitions.
-/

/-- A way to load a class by name through a loader. -/
abbrev Load (ι : Type) := LoaderId → ClassName → Action (Area ι) ClassId

namespace Area

variable {ι : Type}

/-- Resolve the superclass of a definition, which has to be an ordinary class. -/
def linkSuperclass (load : ClassName → Action (Area ι) ClassId)
    (definition : ClassDefinition ι) : Action (Area ι) (Option ClassId) :=
  match definition.inheritedName? with
  | none => pure none
  | some name => do
    let id ← load name
    let inherited ← getClass id
    if inherited.kind = .ordinary then pure (some id)
    else Action.fail (.incompatibleClassChange definition.name inherited.name)

/-- Resolve the interfaces of a definition in order.  Each has to be an
interface. -/
def linkInterfaces (load : ClassName → Action (Area ι) ClassId)
    (definition : ClassDefinition ι) : List ClassName → Action (Area ι) (List ClassId)
  | [] => pure []
  | name :: rest => do
    let id ← load name
    let inherited ← getClass id
    if inherited.kind = .interface then do
      let others ← linkInterfaces load definition rest
      pure (id :: others)
    else Action.fail (.incompatibleClassChange definition.name name)

/-- Make the descriptor of a definition. -/
def link (load : ClassName → Action (Area ι) ClassId) (source : Source)
    (definition : ClassDefinition ι) : Action (Area ι) TypeDescriptor := do
  let superclass ← linkSuperclass load definition
  let interfaces ← linkInterfaces load definition definition.interfaces
  pure {
    name := definition.name
    kind := definition.kind
    flags := definition.flags
    superclass
    interfaces
    component := none
    source
    enclosure := definition.enclosure }

/-- Define a class from a loader's own definition.  The definition is marked
while it is being linked, and the mark is taken off whatever comes of it. -/
def define (nested : Load ι) : Load ι := fun id name => do
  let loader ← getLoader id
  match loader.byName.find? name with
  | some found => pure found
  | none =>
    match loader.definitions.find? name with
    | none => Action.fail (.classNotFound name)
    | some definition =>
      if name ∈ loader.linking then Action.fail (.classCircularity name)
      else do
        beginLinking id name
        let linked ← Action.attempt (link (nested id) loader.source definition)
        endLinking id name
        let type ← Action.ofExcept linked
        let found ← addClass id (.fresh type definition.initializer)
        remember id name found
        pure found

/-- Keep what the parent has found, define the class if the parent has not
found it, and pass on any other fault. -/
def orDefine (nested : Load ι) (id : LoaderId) (name : ClassName) :
    Except Fault ClassId → Action (Area ι) ClassId
  | .ok found => pure found
  | .error (.error (.classNotFound _)) => define nested id name
  | .error fault => throw fault

/-- Load a class that is no array, asking parents first.  At most `bound`
loaders are asked. -/
def delegate (nested : Load ι) : Nat → Load ι
  | 0 => fun _ _ => throw .exhausted
  | bound + 1 => fun id name => do
    let loader ← getLoader id
    match loader.byName.find? name with
    | some found => pure found
    | none => do
      let found ←
        match loader.parent with
        | none => define nested id name
        | some parent => do
          let answer ← Action.attempt (delegate nested bound parent name)
          orDefine nested id name answer
      remember id name found
      pure found

/-- Load a class that is no array.  A chain of parents that does not repeat
itself is no longer than the number of loaders, and may end in a number that
is not one of them. -/
def loadOrdinary (nested : Load ι) : Load ι := fun id name => do
  delegate nested ((← get).loaders.size + 1) id name

/-- The descriptor of an array class. -/
def arrayType (name : ClassName) (component : ClassId) (element : TypeDescriptor)
    (root : ClassId) (interfaces : List ClassId) : TypeDescriptor where
  name
  kind := .array
  flags :=
    (if element.isPrimitive then .publicFlag else element.flags &&& .visibility) |||
      .finalFlag ||| .abstractFlag
  superclass := some root
  interfaces
  component := some component
  source := element.source
  enclosure := none

/-- The array class of a component, made in the component's own loader unless
that loader has it already. -/
def obtainArray (nested : Load ι) (name : ClassName) (component : ClassId) :
    Action (Area ι) ClassId := do
  let element ← getClass component
  let root ← loadOrdinary nested .bootstrap .object
  let cloneable ← loadOrdinary nested .bootstrap .cloneable
  let serializable ← loadOrdinary nested .bootstrap .serializable
  let home ← getLoader component.loader
  match home.byName.find? name with
  | some found => pure found
  | none => do
    let type := arrayType name component element.toTypeDescriptor root [cloneable, serializable]
    let found ← addClass component.loader (.fresh type none)
    remember component.loader name found
    pure found

/-- Load a class, resolving what its definition inherits from by `nested`. -/
def loadWith (nested : Load ι) (id : LoaderId) (name : ClassName) : Action (Area ι) ClassId :=
  if name.isArray then do
    let loader ← getLoader id
    match loader.byName.find? name with
    | some found => pure found
    | none =>
      match shape : name.component? with
      | none => Action.fail (.classNotFound name)
      | some componentName => do
        have := ClassName.nesting_component? shape
        let component ← loadWith nested id componentName
        let found ← obtainArray nested name component
        remember id name found
        pure found
  else loadOrdinary nested id name
termination_by name.nesting

/-- Load a class with at most the given number of definitions being linked at
a time. -/
def loadNested : Nat → Load ι
  | 0 => fun _ _ => throw .exhausted
  | depth + 1 => loadWith (loadNested depth)

/-- Load the class of the given internal name through a loader. -/
def load : Load ι := fun id name => do
  loadNested ((← get).definitionCount + 1) id name

/-- Load the class that a user calls by the given name: a primitive keyword,
or a name with slashes or dots. -/
def resolve (id : LoaderId) (name : String) : Action (Area ι) ClassId := do
  match (← get).primitiveClass? name with
  | some found => pure found
  | none => load id (ClassName.internal name)

end Area
end ClassRuntime

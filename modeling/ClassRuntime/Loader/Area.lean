import ClassRuntime.Class.Definition
import ClassRuntime.Class.Hierarchy
import ClassRuntime.Class.Progress
import ClassRuntime.ClassName.Array
import ClassRuntime.Table
import ClassRuntime.Value

namespace ClassRuntime

/-!
# Loaders and their classes

The area of a runtime holds its loaders, and each loader the definitions that
it was given, the classes that it has defined, and the names that have been
resolved through it.  A class keeps its place for good, so that its handle
stays valid.  The bootstrap loader starts with the classes of the primitive
types and has no parent.
-/

/-- A class with what may still change about it. -/
structure LoadedClass (ι : Type) extends TypeDescriptor where
  initializer : Option ι
  progress : Progress
  /-- The mirror of the class, once it has been made. -/
  mirror : Option Object
  /-- The constant pool of the class, once it has been made. -/
  pool : Option Object
  deriving Inhabited

/-- A class as it is right after linking. -/
def LoadedClass.fresh {ι : Type} (type : TypeDescriptor) (initializer : Option ι) :
    LoadedClass ι where
  toTypeDescriptor := type
  initializer
  progress := .notStarted
  mirror := none
  pool := none

/-- A loader. -/
structure Loader (ι : Type) where
  name : String
  source : Source
  /-- The loader that is asked first. -/
  parent : Option LoaderId
  /-- What the loader can define, by name. -/
  definitions : Table ClassName (ClassDefinition ι)
  /-- What the loader has defined, in order. -/
  classes : Array (LoadedClass ι)
  /-- What the loader was asked for and has found, by name. -/
  byName : Table ClassName ClassId
  /-- The names whose definitions are being linked. -/
  linking : List ClassName
  /-- The handle of the loader, once it has been made. -/
  handle : Option Object
  deriving Inhabited

namespace Loader

variable {ι : Type}

/-- A loader without definitions and classes. -/
def create (name : String) (source : Source) (parent : Option LoaderId) : Loader ι where
  name
  source
  parent
  definitions := .empty
  classes := #[]
  byName := .empty
  linking := []
  handle := none

/-- Make a definition available, in place of an earlier one of its name. -/
def addDefinition (loader : Loader ι) (definition : ClassDefinition ι) : Loader ι :=
  { loader with definitions := loader.definitions.insert definition.name definition }

/-- The names of the definitions, in the order of their characters. -/
def definitionNames (loader : Loader ι) : List ClassName :=
  loader.definitions.keys.mergeSort fun left right => left ≤ right

/-- The loader in words. -/
def text (loader : Loader ι) (id : LoaderId) : String :=
  Text.record "ClassLoader"
    [("id", id.text),
      ("name", Text.quoted loader.name),
      ("source", loader.source.text),
      ("classes", toString loader.classes.size)]

/-- The descriptor of the class of a primitive type. -/
def primitiveType (primitive : Primitive) : TypeDescriptor where
  name := primitive.keyword
  kind := .primitive
  flags := .publicFlag ||| .finalFlag ||| .abstractFlag
  superclass := none
  interfaces := []
  component := none
  source := .bootPath
  enclosure := none

/-- The names of the primitive types with their places. -/
def primitiveNames : List (ClassName × ClassId) :=
  Primitive.all.zipIdx.map fun (primitive, index) => (primitive.keyword, ⟨.bootstrap, index⟩)

/-- The bootstrap loader with the classes of the primitive types. -/
def bootstrap (definitions : List (ClassDefinition ι)) : Loader ι :=
  let empty : Loader ι := create "bootstrap" .bootPath none
  { definitions.foldl addDefinition empty with
    classes := (Primitive.all.map fun primitive => .fresh (primitiveType primitive) none).toArray
    byName := .ofList primitiveNames }

end Loader

/-- The loaders of a runtime. -/
structure Area (ι : Type) where
  loaders : Array (Loader ι)
  deriving Inhabited

namespace Area

variable {ι : Type}

/-- The area with the bootstrap loader alone. -/
def initial (definitions : List (ClassDefinition ι)) : Area ι :=
  ⟨#[.bootstrap definitions]⟩

/-- The loader with the given number. -/
def loader? (area : Area ι) (id : LoaderId) : Option (Loader ι) :=
  area.loaders[id.index]?

/-- The class behind a handle. -/
def class? (area : Area ι) (id : ClassId) : Option (LoadedClass ι) :=
  (area.loader? id.loader).bind fun loader => loader.classes[id.index]?

/-- The loader with the given number, which has to exist. -/
def loader (area : Area ι) (id : LoaderId) : Except Fault (Loader ι) :=
  match area.loader? id with
  | some loader => .ok loader
  | none => .error (.danglingLoader id)

/-- The class behind a handle, which has to exist. -/
def loadedClass (area : Area ι) (id : ClassId) : Except Fault (LoadedClass ι) := do
  let loader ← area.loader id.loader
  match loader.classes[id.index]? with
  | some loaded => .ok loaded
  | none => .error (.danglingClass id)

/-- Every handle that the area has given out. -/
def classIds (area : Area ι) : List ClassId :=
  area.loaders.toList.zipIdx.flatMap fun (loader, number) =>
    (List.range loader.classes.size).map fun index => ⟨⟨number⟩, index⟩

/-- The graph of all classes. -/
def graph (area : Area ι) : ClassGraph where
  type id := (area.loadedClass id).map (·.toTypeDescriptor)
  ids := area.classIds

/-- The number of definitions of all loaders. -/
def definitionCount (area : Area ι) : Nat :=
  area.loaders.foldl (fun count loader => count + loader.definitions.size) 0

/-- Change one loader. -/
def updateLoader (area : Area ι) (id : LoaderId) (change : Loader ι → Loader ι) : Area ι :=
  ⟨area.loaders.modify id.index change⟩

/-- Change one class. -/
def updateClass (area : Area ι) (id : ClassId) (change : LoadedClass ι → LoadedClass ι) :
    Area ι :=
  area.updateLoader id.loader fun loader =>
    { loader with classes := loader.classes.modify id.index change }

theorem loader?_updateLoader (area : Area ι) (id other : LoaderId)
    (change : Loader ι → Loader ι) :
    (area.updateLoader id change).loader? other =
      if id = other then (area.loader? other).map change else area.loader? other := by
  obtain ⟨index⟩ := id
  obtain ⟨sought⟩ := other
  simp [loader?, updateLoader, Array.getElem?_modify]

theorem class?_updateClass (area : Area ι) (id other : ClassId)
    (change : LoadedClass ι → LoadedClass ι) :
    (area.updateClass id change).class? other =
      if id = other then (area.class? other).map change else area.class? other := by
  obtain ⟨loader, index⟩ := id
  obtain ⟨home, sought⟩ := other
  simp only [class?, updateClass, loader?_updateLoader, ClassId.mk.injEq]
  by_cases same : loader = home
  · cases area.loader? home <;> simp [same, Array.getElem?_modify]
  · simp [same]

/-- The area in words. -/
def text (area : Area ι) : String :=
  Text.list (area.loaders.toList.zipIdx.map fun (loader, number) => loader.text ⟨number⟩)

/-- The class of the primitive type with the given keyword. -/
def primitiveClass? (area : Area ι) (word : String) : Option ClassId :=
  if ClassName.isPrimitive word then
    (area.loader? .bootstrap).bind fun loader => loader.byName.find? word
  else none

/-- Add a loader below a parent, the bootstrap loader if none is given. -/
def addLoader (name : String) (source : Source) (parent : Option LoaderId) :
    Action (Area ι) LoaderId :=
  modifyGet fun area =>
    (⟨area.loaders.size⟩,
      ⟨area.loaders.push (.create name source (some (parent.getD .bootstrap)))⟩)

/-- Look up a loader. -/
def getLoader (id : LoaderId) : Action (Area ι) (Loader ι) := do
  Action.ofExcept ((← get).loader id)

/-- Look up a class. -/
def getClass (id : ClassId) : Action (Area ι) (LoadedClass ι) := do
  Action.ofExcept ((← get).loadedClass id)

/-- Give a definition to a loader. -/
def addDefinition (id : LoaderId) (definition : ClassDefinition ι) : Action (Area ι) Unit := do
  let _ ← getLoader id
  modify fun area => area.updateLoader id fun loader => loader.addDefinition definition

/-- Append a class to those that a loader has defined. -/
def addClass (id : LoaderId) (loaded : LoadedClass ι) : Action (Area ι) ClassId := do
  let loader ← getLoader id
  modify fun area => area.updateLoader id fun loader =>
    { loader with classes := loader.classes.push loaded }
  pure ⟨id, loader.classes.size⟩

/-- Let a loader answer a name with a class from now on. -/
def remember (id : LoaderId) (name : ClassName) (found : ClassId) : Action (Area ι) Unit :=
  modify fun area => area.updateLoader id fun loader =>
    { loader with byName := loader.byName.insert name found }

/-- Note that a definition is being linked. -/
def beginLinking (id : LoaderId) (name : ClassName) : Action (Area ι) Unit :=
  modify fun area => area.updateLoader id fun loader =>
    { loader with linking := name :: loader.linking }

/-- Note that a definition is no longer being linked. -/
def endLinking (id : LoaderId) (name : ClassName) : Action (Area ι) Unit :=
  modify fun area => area.updateLoader id fun loader =>
    { loader with linking := loader.linking.erase name }

end Area
end ClassRuntime

import ClassRuntime.Loader.Loading
import ClassRuntime.Machine.Metrics

namespace ClassRuntime

/-!
# Machines

A machine is the state that all threads of one runtime share: its loaders and
their classes, the answers to assignability questions, and what it has counted
and numbered.  An assignability question about two classes is answered once
and from then on from the cache.
-/

/-- The state of a runtime. -/
structure Machine (ι : Type) where
  /-- What tells this runtime's objects from those of others. -/
  number : Nat
  area : Area ι
  /-- Known answers, by source and target. -/
  assignability : Table (ClassId × ClassId) Bool
  metrics : Metrics
  /-- The number of the thread that is attached next. -/
  nextThread : Nat
  /-- The number of the object that is made next. -/
  nextObject : Nat
  deriving Inhabited

namespace Machine

variable {ι : Type}

/-- A machine that can define the given classes and has done nothing. -/
def initial (number : Nat) (definitions : List (ClassDefinition ι)) : Machine ι where
  number
  area := .initial definitions
  assignability := .empty
  metrics := .zero
  nextThread := 1
  nextObject := 0

/-- The area as a part of the machine. -/
def areaPart : Part (Machine ι) (Area ι) where
  read machine := machine.area
  replace area machine := { machine with area }

/-- An action on the area is one on the machine. -/
def onArea {α : Type} (action : Action (Area ι) α) : Action (Machine ι) α :=
  action.within areaPart

/-- Advance a counter. -/
def count (advance : Metrics → Metrics) : Action (Machine ι) Unit :=
  modify fun machine => { machine with metrics := advance machine.metrics }

/-- Attach another thread. -/
def attach : Action (Machine ι) ThreadId :=
  modifyGet fun machine =>
    (⟨machine.nextThread⟩, { machine with nextThread := machine.nextThread + 1 })

/-- Look up a class. -/
def getClass (id : ClassId) : Action (Machine ι) (LoadedClass ι) :=
  onArea (Area.getClass id)

/-- Load the class of the given internal name through a loader. -/
def load (id : LoaderId) (name : ClassName) : Action (Machine ι) ClassId :=
  onArea (Area.load id name)

/-- Load the class that a user calls by the given name. -/
def resolve (id : LoaderId) (name : String) : Action (Machine ι) ClassId :=
  onArea (Area.resolve id name)

/-- Change one class. -/
def updateClass (id : ClassId) (change : LoadedClass ι → LoadedClass ι) :
    Action (Machine ι) Unit :=
  modify fun machine => { machine with area := machine.area.updateClass id change }

/-- Set how far the initialization of a class has come. -/
def setProgress (id : ClassId) (progress : Progress) : Action (Machine ι) Unit :=
  updateClass id fun loaded => { loaded with progress }

/-- Whether every instance of the source is also an instance of the target. -/
def isAssignable (source target : ClassId) : Action (Machine ι) Bool := do
  match (← get).assignability.find? (source, target) with
  | some known => do
    count Metrics.countHit
    pure known
  | none => do
    count Metrics.countMiss
    let answer ← Action.ofExcept ((← get).area.graph.assignable source target)
    modify fun machine =>
      { machine with assignability := machine.assignability.insert (source, target) answer }
    pure answer

/-- Whether a reference refers to an instance of the class.  Null is an
instance of none. -/
def isInstance (target : Reference) (id : ClassId) : Action (Machine ι) Bool :=
  match target with
  | some object => isAssignable object.type id
  | none => pure false

end Machine
end ClassRuntime

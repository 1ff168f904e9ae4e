import ClassRuntime.Machine.Basic

namespace ClassRuntime
namespace Machine

/-!
# Making objects

Strings and arrays are made anew each time.  A class has one mirror and one
constant pool, and a loader has one handle: the first request makes the object
and every later one returns it.  The class of an object is loaded before the
object is made, so a request that fails makes nothing.
-/

variable {ι : Type}

/-- Make an object with an identity of its own. -/
def makeObject (make : ObjectId → Object) : Action (Machine ι) Object :=
  modifyGet fun machine =>
    (make ⟨machine.number, machine.nextObject⟩,
      { machine with nextObject := machine.nextObject + 1 })

/-- Make a string. -/
def makeText (content : String) : Action (Machine ι) Object := do
  let type ← load .bootstrap .string
  makeObject fun id => .text id type content

/-- Make an array of the given component.  The array class is loaded through
the loader that defined the component. -/
def makeArray (component : ClassId) (elements : List Reference) :
    Action (Machine ι) Object := do
  let element ← getClass component
  let type ← load component.loader element.name.arrayOf
  makeObject fun id => .array id type elements

/-- The mirror of a class. -/
def mirrorOf (id : ClassId) : Action (Machine ι) Object := do
  let loaded ← getClass id
  match loaded.mirror with
  | some mirror => pure mirror
  | none => do
    let type ← load .bootstrap .mirror
    count Metrics.countMirror
    let mirror ← makeObject fun identity => .plain identity type (some (.mirror id))
    updateClass id fun loaded => { loaded with mirror := some mirror }
    pure mirror

/-- The constant pool of a class. -/
def poolOf (id : ClassId) : Action (Machine ι) Object := do
  let loaded ← getClass id
  match loaded.pool with
  | some pool => pure pool
  | none => do
    let type ← load .bootstrap .constantPool
    count Metrics.countPool
    let pool ← makeObject fun identity => .plain identity type (some (.pool id))
    updateClass id fun loaded => { loaded with pool := some pool }
    pure pool

/-- The handle of a loader.  The class of the handle is loaded through that
loader. -/
def handleOf (id : LoaderId) : Action (Machine ι) Object := do
  let loader ← onArea (Area.getLoader id)
  match loader.handle with
  | some handle => pure handle
  | none => do
    let type ← load id .loaderHandle
    count Metrics.countHandle
    let handle ← makeObject fun identity => .plain identity type (some (.handle id))
    modify fun machine =>
      { machine with
        area := machine.area.updateLoader id fun loader => { loader with handle := some handle } }
    pure handle

end Machine
end ClassRuntime

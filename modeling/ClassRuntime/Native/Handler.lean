import ClassRuntime.Machine.Reflection
import ClassRuntime.Native.Frame
import ClassRuntime.Native.Registry

namespace ClassRuntime

/-!
# Natives

A native carries out a method on the host.  It reads the arguments, uses the
machine, pushes as many values as its descriptor says and is complete.  A
native that needs another class initialized first pushes nothing, rewinds its
frame and names that class; the same call is then made again from the start,
so a native has to look at the state of initialization each time.
-/

/-- What a native can see of a call without being able to change it. -/
structure CallSite where
  thread : ThreadId
  method : MethodKey
  arguments : Arguments
  place : Nat
  deriving Inhabited

/-- What a native works on. -/
structure Invocation (ι : Type) where
  machine : Machine ι
  operands : Operands
  deriving Inhabited

/-- How a native ends. -/
inductive Outcome where
  /-- The results have been pushed. -/
  | complete
  /-- The class has to be initialized before the call is made again. -/
  | deferred (dependency : ClassId)
  deriving DecidableEq, Inhabited

/-- The host's implementation of a method. -/
abbrev Native (ι : Type) := CallSite → Action (Invocation ι) Outcome

namespace Native

variable {ι : Type} {α : Type}

/-- The machine as a part of a call. -/
def machinePart : Part (Invocation ι) (Machine ι) where
  read invocation := invocation.machine
  replace machine invocation := { invocation with machine }

/-- Use the machine. -/
def onMachine (action : Action (Machine ι) α) : Action (Invocation ι) α :=
  action.within machinePart

/-- Push a value. -/
def push (value : Value) : Action (Invocation ι) Unit :=
  modify fun invocation => { invocation with operands := invocation.operands.push value }

/-- Pop a value. -/
def pop : Action (Invocation ι) (Option Value) :=
  modifyGet fun invocation =>
    let (value, operands) := invocation.operands.pop
    (value, { invocation with operands })

/-- Make the call the one to be executed next. -/
def rewind : Action (Invocation ι) Unit :=
  modify fun invocation => { invocation with operands := invocation.operands.rewind }

/-- Push the result and be complete. -/
def answer (value : Value) : Action (Invocation ι) Outcome := do
  push value
  pure .complete

/-- Put the call off until the class is initialized. -/
def defer (dependency : ClassId) : Action (Invocation ι) Outcome := do
  rewind
  pure (.deferred dependency)

/-- The reference that an argument holds. -/
def reference (site : CallSite) (index : Nat) : Action (Invocation ι) Reference :=
  Action.ofExcept ((site.arguments.reference index).mapError .error)

/-- The error of an argument that stands for nothing of the expected class
here. -/
def malformed (site : CallSite) (expected : ClassName) : RuntimeError :=
  .malformedReceiver site.method.text expected

/-- The class that a mirror stands for, provided that this machine has it. -/
def mirroredHere (machine : Machine ι) (object : Object) : Option ClassId :=
  object.mirrored?.filter fun id => (machine.area.class? id).isSome

/-- The class that a mirror stands for. -/
def mirrored (site : CallSite) (object : Object) : Action (Invocation ι) ClassId := do
  match mirroredHere (← get).machine object with
  | some id => pure id
  | none => Action.fail (malformed site .mirror)

/-- The class whose mirror is the receiver. -/
def receiver (site : CallSite) : Action (Invocation ι) ClassId := do
  match ← reference site 0 with
  | some object => mirrored site object
  | none => Action.fail (.nullReceiver site.method.text)

/-- The class whose mirror is an argument, or nothing if the argument is null. -/
def classArgument (site : CallSite) (index : Nat) :
    Action (Invocation ι) (Option ClassId) := do
  match ← reference site index with
  | some object => some <$> mirrored site object
  | none => pure none

/-- Load a class that a native depends on.  The answer is the class if its
initialization has not started, so that the call has to be put off.  A class
whose initialization failed cannot be used at all. -/
def pendingInitialization (loader : LoaderId) (name : ClassName) :
    Action (Machine ι) (Option ClassId) := do
  let id ← Machine.load loader name
  let loaded ← Machine.getClass id
  if loaded.progress.isFailed then Action.fail (.erroneous loaded.name)
  else if loaded.progress.isNotStarted then pure (some id)
  else pure none

end Native
end ClassRuntime

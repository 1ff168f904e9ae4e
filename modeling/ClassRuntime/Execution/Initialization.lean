import ClassRuntime.Machine.Basic

namespace ClassRuntime

/-!
# Static initialization

A class is initialized after its superclass, and its initializer is run by the
thread that claims it first.  What an initializer does is up to its host: it
may use the machine in any way, initialize further classes included, and the
host may keep a state of its own meanwhile.  If it fails, so does the
initialization of its class, once and for all.

The classes that a request concerns are those from the class up to the last
one below an initialized superclass.  They are found before any of them is
initialized, and then initialized from the topmost one down.
-/

/-- A machine together with the state of its host. -/
structure Session (ι σ : Type) where
  machine : Machine ι
  host : σ
  deriving Inhabited

namespace Session

variable {ι σ α : Type}

/-- The machine as a part of the session. -/
def machinePart : Part (Session ι σ) (Machine ι) where
  read session := session.machine
  replace machine session := { session with machine }

/-- Use the machine. -/
def onMachine (action : Action (Machine ι) α) : Action (Session ι σ) α :=
  action.within machinePart

end Session

/-- A way to initialize a class on a thread. -/
abbrev InitClass (ι σ : Type) := ThreadId → ClassId → Action (Session ι σ) Unit

/-- How the host runs the initializer of a class on a thread.  Classes that the
initializer needs are initialized by the function it is given.  The result
tells a failure of the initializer, with its reason. -/
structure Host (ι σ : Type) where
  run : InitClass ι σ → ι → ThreadId → ClassId → Action (Session ι σ) (Except String Unit)

namespace Initialization

variable {ι σ : Type}

/-- The classes to be initialized for a class, topmost first.  At most `bound`
superclasses are followed. -/
def pending : Nat → ClassId → Action (Machine ι) (List ClassId)
  | 0, _ => throw .exhausted
  | bound + 1, id => do
    let loaded ← Machine.getClass id
    if loaded.progress.isInitialized then pure []
    else
      match loaded.superclass with
      | none => pure [id]
      | some superclass => do
        let above ← pending bound superclass
        pure (above ++ [id])

/-- Run the initializer of a class, if it has one. -/
def runInitializer (host : Host ι σ) (nested : InitClass ι σ) (thread : ThreadId)
    (id : ClassId) : Option ι → Action (Session ι σ) (Except String Unit)
  | none => pure (.ok ())
  | some code => do
    Session.onMachine (Machine.count Metrics.countInitializer)
    host.run nested code thread id

/-- Initialize one class whose superclass has been seen to. -/
def enter (host : Host ι σ) (nested : InitClass ι σ) : InitClass ι σ := fun thread id => do
  let loaded ← Session.onMachine (Machine.getClass id)
  let (claim, progress) := loaded.progress.claim thread
  match claim with
  | .initialized => pure ()
  | .recursive => pure ()
  | .failed => Action.fail (.erroneous loaded.name)
  | .waiting => throw (.blocked id)
  | .execute => do
    Session.onMachine (Machine.setProgress id progress)
    match ← runInitializer host nested thread id loaded.initializer with
    | .ok () => Session.onMachine (Machine.setProgress id .initialized)
    | .error reason => do
      Session.onMachine (Machine.setProgress id .failed)
      Action.fail (.initializationFailed loaded.name reason)

/-- Initialize classes one after another. -/
def enterAll (host : Host ι σ) (nested : InitClass ι σ) (thread : ThreadId) :
    List ClassId → Action (Session ι σ) Unit
  | [] => pure ()
  | first :: rest => do
    enter host nested thread first
    enterAll host nested thread rest

/-- Initialize a class, given how initializers initialize further ones. -/
def initClassWith (host : Host ι σ) (nested : InitClass ι σ) : InitClass ι σ :=
  fun thread id => do
    let bound := (← get).machine.area.classIds.length + 1
    let classes ← Session.onMachine (pending bound id)
    enterAll host nested thread classes

/-- Initialize a class, with at most the given number of requests nested in
initializers. -/
def initClass (host : Host ι σ) : Nat → InitClass ι σ
  | 0 => initClassWith host fun _ _ => throw .exhausted
  | depth + 1 => initClassWith host (initClass host depth)

end Initialization
end ClassRuntime

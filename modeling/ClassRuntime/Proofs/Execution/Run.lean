import ClassRuntime.Execution.Invocation
import ClassRuntime.Proofs.Loader.Advance
import ClassRuntime.Proofs.Native.Lawful

namespace ClassRuntime

/-!
# Runs

Threads use a runtime by operations, one after another.  An operation may run
static initializers.  These are programs that use the runtime themselves, by
any operations on the thread that runs them, and that may consult a state of
their host meanwhile.  What an operation answers, errors included, decides how
a program goes on, and each program comes to an end.

A run keeps a record.  It holds the machine as it was each time an operation
started or ended, those inside of initializers and calls included, and each
time an initializer was entered or left.
-/

/-- What a thread can do with a runtime, with the type of the answer. -/
inductive Operation (ι : Type) : Type → Type 1 where
  | request {α : Type} (request : Request ι α) : Operation ι α
  | initClass (id : ClassId) : Operation ι Unit
  | invoke (method : MethodKey) (arguments : Arguments) : Operation ι (Option Value)
  | invokeIn (method : MethodKey) (frame : Frame) : Operation ι (Except Fault Unit × Frame)

/-- What an initializer does: it succeeds or fails in the end, and before that
performs operations and consults its host. -/
inductive Program (ι σ : Type) : Type 1 where
  | finish (result : Except String Unit)
  | operate {α : Type} (operation : Operation ι α) (next : Except Fault α → Program ι σ)
  | consult (change : σ → σ) (next : σ → Program ι σ)

/-- What happens in a run. -/
inductive Event where
  /-- An operation starts. -/
  | started (thread : ThreadId)
  /-- An operation ends. -/
  | ended (thread : ThreadId)
  /-- The initializer of the class is entered. -/
  | entered (thread : ThreadId) (id : ClassId)
  /-- The initializer of the class is left. -/
  | left (thread : ThreadId) (id : ClassId)
  deriving DecidableEq

/-- The class whose initializer is entered. -/
def Event.entered? : Event → Option ClassId
  | .entered _ id => some id
  | _ => none

/-- An event together with the machine as it was then. -/
structure Moment (ι : Type) where
  event : Event
  machine : Machine ι

/-- The state of a host that keeps a record, the latest moment first. -/
structure Recorded (ι σ : Type) where
  state : σ
  moments : List (Moment ι)

namespace Recorded

variable {ι σ α : Type}

/-- The classes whose initializers have been entered, the latest first. -/
def entries (recorded : Recorded ι σ) : List ClassId :=
  recorded.moments.filterMap fun moment => moment.event.entered?

/-- The session with one more moment in its record. -/
def noted (event : Event) (session : Session ι (Recorded ι σ)) : Session ι (Recorded ι σ) :=
  { session with
    host := { session.host with moments := ⟨event, session.machine⟩ :: session.host.moments } }

/-- Record what happens. -/
def note (event : Event) : Action (Session ι (Recorded ι σ)) Unit :=
  modify (noted event)

/-- Give the answer of an operation, whatever it is.  An operation that has
used up the limits has none. -/
def answered {τ : Type} : Except Fault α → Action τ (Except Fault α)
  | .error .exhausted => throw .exhausted
  | answer => pure answer

/-- Perform an operation and record its start and its end. -/
def observe (thread : ThreadId) (operation : Action (Session ι (Recorded ι σ)) α) :
    Action (Session ι (Recorded ι σ)) (Except Fault α) := do
  note (.started thread)
  let result ← Action.attempt operation
  let answer ← answered result
  note (.ended thread)
  pure answer

end Recorded

/-- What a run is given: natives, what each initializer does, and how often a
call may be dispatched. -/
structure Setting (ι σ : Type) where
  registry : Registry (Native ι)
  lawful : registry.All Native.Lawful
  program : ι → ThreadId → ClassId → Program ι σ
  limit : Nat

/-- An operation that a thread is to perform. -/
structure Task (ι : Type) where
  {answer : Type}
  thread : ThreadId
  operation : Operation ι answer

namespace Setting

variable {ι σ : Type}

/-- What a thread needs to call natives.  Classes for which a call waits are
initialized by operations of their own. -/
def executor (setting : Setting ι σ) (nested : InitClass ι (Recorded ι σ)) :
    Executor ι (Recorded ι σ) where
  registry := setting.registry
  initClass thread id := do
    let answer ← Recorded.observe thread (nested thread id)
    Action.ofExcept answer
  limit := setting.limit

/-- Perform an operation, given how classes are initialized. -/
def perform {α : Type} (setting : Setting ι σ) (nested : InitClass ι (Recorded ι σ))
    (thread : ThreadId) : Operation ι α → Action (Session ι (Recorded ι σ)) α
  | .request request => Session.onMachine request.perform
  | .initClass id => nested thread id
  | .invoke method arguments => (setting.executor nested).invoke thread method arguments
  | .invokeIn method frame => do
    let (result, frame) ← (setting.executor nested).invokeIn thread method frame
    let answer ← Recorded.answered result
    pure (answer, frame)

/-- Run a program on a thread. -/
def runProgram (setting : Setting ι σ) (nested : InitClass ι (Recorded ι σ))
    (thread : ThreadId) : Program ι σ → Action (Session ι (Recorded ι σ)) (Except String Unit)
  | .finish result => pure result
  | .operate operation next => do
    let answer ← Recorded.observe thread (setting.perform nested thread operation)
    setting.runProgram nested thread (next answer)
  | .consult change next => do
    modify fun session =>
      { session with host := { session.host with state := change session.host.state } }
    setting.runProgram nested thread (next (← get).host.state)

/-- The host that runs the programs of initializers. -/
def host (setting : Setting ι σ) : Host ι (Recorded ι σ) where
  run nested code thread id := do
    Recorded.note (.entered thread id)
    let result ← setting.runProgram nested thread (setting.program code thread id)
    Recorded.note (.left thread id)
    pure result

/-- Perform tasks one after another, with at most the given number of requests
nested in initializers. -/
def run (setting : Setting ι σ) (depth : Nat) :
    List (Task ι) → Action (Session ι (Recorded ι σ)) Unit
  | [] => pure ()
  | task :: rest => do
    let initClass := Initialization.initClass setting.host depth
    let _ ← Recorded.observe task.thread (setting.perform initClass task.thread task.operation)
    setting.run depth rest

/-- A new runtime. -/
def start (number : Nat) (definitions : List (ClassDefinition ι)) (state : σ) :
    Session ι (Recorded ι σ) where
  machine := .initial number definitions
  host := ⟨state, []⟩

end Setting
end ClassRuntime

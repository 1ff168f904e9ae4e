import ClassRuntime.Execution.Initialization
import ClassRuntime.Native.ClassMethods

namespace ClassRuntime

/-!
# Calling natives

A native is dispatched until it is complete.  Each time the frame is made ready
anew.  When it is complete, it has to have left what its descriptor says.  When
it is put off instead, it has to have left nothing and to have rewound its
frame, and the class it waits for must not be one for which it has waited in
the same call; that class is then initialized and the native dispatched again.
-/

/-- A session in the course of a call. -/
structure Call (ι σ : Type) where
  session : Session ι σ
  operands : Operands
  deriving Inhabited

namespace Call

variable {ι σ α : Type}

/-- The session as a part of the call. -/
def sessionPart : Part (Call ι σ) (Session ι σ) where
  read call := call.session
  replace session call := { call with session }

/-- What a native works on, as a part of the call. -/
def invocationPart : Part (Call ι σ) (Invocation ι) where
  read call := ⟨call.session.machine, call.operands⟩
  replace invocation call :=
    { session := { call.session with machine := invocation.machine }
      operands := invocation.operands }

/-- Use the session. -/
def onSession (action : Action (Session ι σ) α) : Action (Call ι σ) α :=
  action.within sessionPart

/-- Use the machine. -/
def onMachine (action : Action (Machine ι) α) : Action (Call ι σ) α :=
  onSession (Session.onMachine action)

/-- Make the frame ready for a dispatch and let the native do its work. -/
def dispatch (entry : RegistryEntry (Native ι)) (site : CallSite) :
    Action (Call ι σ) Outcome := do
  modify fun call => { call with operands := .empty }
  onMachine (Machine.count Metrics.countDispatch)
  (entry.handler site).within invocationPart

/-- What is wrong with the results of a native that is complete. -/
def resultFlaw? (descriptor : MethodDescriptor) (method : String) (stack : Array Value) :
    Option RuntimeError :=
  if stack.size ≠ descriptor.resultCount then
    some (.resultMismatch method stack.size descriptor.resultCount)
  else
    match stack.back? with
    | none => none
    | some value =>
      if value.category = descriptor.resultCategory then none
      else some (.resultTypeMismatch method value.category descriptor.resultCategory)

/-- What is wrong with the operands of a native that is put off. -/
def deferralFlaw? (method : String) (operands : Operands) : Option RuntimeError :=
  if operands.stack.size ≠ 0 then some (.resultMismatch method operands.stack.size 0)
  else if operands.rewound then none
  else some (.deferredWithoutRewind method)

/-- Abandon the call if there is a flaw. -/
def refuse : Option RuntimeError → Action (Call ι σ) Unit
  | none => pure ()
  | some flaw => Action.fail flaw

/-- Initialize a class for which the call has not waited yet. -/
def await (initClass : InitClass ι σ) (site : CallSite) (awaited : List ClassId)
    (dependency : ClassId) : Action (Call ι σ) Unit := do
  refuse (deferralFlaw? site.method.text (← get).operands)
  if dependency ∈ awaited then do
    let loaded ← onMachine (Machine.getClass dependency)
    Action.fail (.initializationStalled site.method.text loaded.name)
  else do
    onMachine (Machine.count Metrics.countDeferral)
    onSession (initClass site.thread dependency)

/-- Dispatch a native until it is complete, at most `limit` times.  The list
holds the classes for which the call has waited. -/
def complete (initClass : InitClass ι σ) (entry : RegistryEntry (Native ι))
    (site : CallSite) : Nat → List ClassId → Action (Call ι σ) Unit
  | 0, _ => throw .exhausted
  | limit + 1, awaited => do
    match ← dispatch entry site with
    | .complete =>
      refuse (resultFlaw? entry.descriptor site.method.text (← get).operands.stack)
    | .deferred dependency => do
      await initClass site awaited dependency
      complete initClass entry site limit (dependency :: awaited)

end Call

/-- What a thread needs to call natives: the registry, a way to initialize
classes, and how often one call may be dispatched. -/
structure Executor (ι σ : Type) where
  registry : Registry (Native ι)
  initClass : InitClass ι σ
  limit : Nat

namespace Executor

variable {ι σ : Type}

/-- Call a native in a frame.  The frame is part of the result whether or not
the call is abandoned. -/
def invokeIn (executor : Executor ι σ) (thread : ThreadId) (method : MethodKey)
    (frame : Frame) : Action (Session ι σ) (Except Fault Unit × Frame) :=
  match executor.registry.lookup method with
  | .error cause => pure (.error (.error cause), frame)
  | .ok entry => .ofOutcome fun session =>
    let site : CallSite := ⟨thread, method, frame.arguments, frame.place⟩
    let (result, call) :=
      (Call.complete executor.initClass entry site executor.limit []).outcome
        ⟨session, frame.operands⟩
    (.ok (result, { frame with operands := call.operands }), call.session)

/-- Call a native with the given arguments.  The result is the value it
produced, or nothing if it produces none. -/
def invoke (executor : Executor ι σ) (thread : ThreadId) (method : MethodKey)
    (arguments : Arguments) : Action (Session ι σ) (Option Value) := do
  let (result, frame) ← executor.invokeIn thread method (.create arguments 0)
  Action.ofExcept result
  pure frame.operands.stack.back?

end Executor
end ClassRuntime

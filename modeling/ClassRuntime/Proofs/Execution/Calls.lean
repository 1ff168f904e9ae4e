import ClassRuntime.Execution.Invocation
import ClassRuntime.Proofs.Native.Lawful

namespace ClassRuntime
namespace Call

/-!
# What a call is made of

A call dispatches its native, checks what the native has left, counts, and has
classes initialized.  A property of actions in the course of a call that these
have, and that passes from the first part of an action and the second to both,
is one of all calls of lawful natives.
-/

variable {ι σ : Type}

/-- A property of calls, given one of the initializations for which they wait. -/
structure Calling (sessions : Action.Property (Session ι σ)) (calls : Action.Property (Call ι σ)) :
    Prop where
  pure : ∀ {α : Type} (value : α), calls α (Pure.pure value)
  get : calls (Call ι σ) MonadState.get
  bind : ∀ {α β : Type} {action : Action (Call ι σ) α} {next : α → Action (Call ι σ) β},
    calls α action → (∀ value, calls β (next value)) → calls β (action >>= next)
  fail : ∀ {α : Type} (cause : RuntimeError), calls α (Action.fail cause)
  exhausted : ∀ {α : Type}, calls α (throw .exhausted)
  clear : calls Unit (modify fun call => { call with operands := .empty })
  countDispatch : calls Unit (onMachine (Machine.count Metrics.countDispatch))
  countDeferral : calls Unit (onMachine (Machine.count Metrics.countDeferral))
  getClass : ∀ id, calls (LoadedClass ι) (onMachine (Machine.getClass id))
  native : ∀ {native : Native ι}, native.Lawful →
    ∀ site, calls Outcome ((native site).within invocationPart)
  onSession : ∀ {action : Action (Session ι σ) Unit}, sessions Unit action →
    calls Unit (onSession action)

namespace Calling

variable {sessions : Action.Property (Session ι σ)} {calls : Action.Property (Call ι σ)}
  {initClass : InitClass ι σ} {entry : RegistryEntry (Native ι)}

theorem dispatch (calling : Calling sessions calls) (lawful : entry.handler.Lawful)
    (site : CallSite) : calls Outcome (dispatch entry site) :=
  calling.bind calling.clear fun _ => calling.bind calling.countDispatch fun _ =>
    calling.native lawful site

theorem refuse (calling : Calling sessions calls) (flaw : Option RuntimeError) :
    calls Unit (refuse flaw) := by
  unfold Call.refuse
  split
  · exact calling.pure _
  · exact calling.fail _

theorem await (calling : Calling sessions calls)
    (initializes : ∀ thread id, sessions Unit (initClass thread id)) (site : CallSite)
    (awaited : List ClassId) (dependency : ClassId) :
    calls Unit (await initClass site awaited dependency) := by
  unfold Call.await
  refine calling.bind calling.get fun call => calling.bind (calling.refuse _) fun _ => ?_
  split
  · exact calling.bind (calling.getClass dependency) fun loaded => calling.fail _
  · exact calling.bind calling.countDeferral fun _ =>
      calling.onSession (initializes site.thread dependency)

/-- However often the native is dispatched, the call has the property. -/
theorem complete (calling : Calling sessions calls)
    (initializes : ∀ thread id, sessions Unit (initClass thread id))
    (lawful : entry.handler.Lawful) (site : CallSite) (limit : Nat) (awaited : List ClassId) :
    calls Unit (complete initClass entry site limit awaited) := by
  induction limit generalizing awaited with
  | zero => exact calling.exhausted
  | succ limit inductiveStep =>
    unfold Call.complete
    refine calling.bind (calling.dispatch lawful site) fun outcome => ?_
    split
    · exact calling.bind calling.get fun call => calling.refuse _
    · exact calling.bind (calling.await initializes site awaited _) fun _ => inductiveStep _

end Calling
end Call
end ClassRuntime

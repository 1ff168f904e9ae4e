import ClassRuntime.Proofs.Execution.Discipline
import ClassRuntime.Proofs.Machine.History

namespace ClassRuntime

/-!
# Runs are histories

Whatever happens in a run happens to its machine step by step, also inside of
calls and initializers and also if it is cut short.  So the machine after an
action has come about from the machine before, and so has the machine at each
moment that the action has added to the record.  No step takes back what has been
loaded.
-/

namespace Session

variable {ι σ : Type}

/-- The machines that are seen in a session: the present one, and those of its record,
the latest first. -/
def machines (session : Session ι (Recorded ι σ)) : List (Machine ι) :=
  session.machine :: session.host.moments.map Moment.machine

theorem mem_machines {session : Session ι (Recorded ι σ)} {machine : Machine ι} :
    machine ∈ session.machines ↔
      machine = session.machine ∨ ∃ moment ∈ session.host.moments, machine = moment.machine := by
  simp [machines, eq_comm]

/-- Of the machines that are seen, each has come about from all that are earlier. -/
def Ordered (session : Session ι (Recorded ι σ)) : Prop :=
  session.machines.Pairwise fun later earlier => earlier.Becomes later

/-- The second session comes about from the first. -/
structure Develops (before after : Session ι (Recorded ι σ)) : Prop where
  machine : before.machine.Becomes after.machine
  moments : ∀ moment ∈ after.host.moments,
    moment ∈ before.host.moments ∨ before.machine.Becomes moment.machine
  ordered : before.Ordered → after.Ordered

/-- Nothing but the machine has changed. -/
theorem Develops.of_machine {before after : Session ι (Recorded ι σ)}
    (machine : before.machine.Becomes after.machine)
    (same : after.host.moments = before.host.moments) : before.Develops after where
  machine := machine
  moments _ member := Or.inl (same ▸ member)
  ordered ordered := by
    rcases List.pairwise_cons.1 ordered with ⟨came, earlier⟩
    rw [Ordered, machines, same]
    refine List.pairwise_cons.2 ⟨fun past seen => ?_, earlier⟩
    exact trans_of Machine.Becomes (came past seen) machine

instance : IsPreorder (Session ι (Recorded ι σ)) Develops where
  refl session := .of_machine (refl_of Machine.Becomes session.machine) rfl
  trans _ _ _ first second := by
    refine ⟨trans_of Machine.Becomes first.machine second.machine, fun moment member => ?_,
      fun ordered => second.ordered (first.ordered ordered)⟩
    rcases second.moments moment member with earlier | later
    · exact first.moments moment earlier
    · exact Or.inr (trans_of Machine.Becomes first.machine later)

theorem develops_onMachine {α : Type} {action : Action (Machine ι) α}
    (becomes : action.Within Machine.Becomes) :
    (onMachine action : Action (Session ι (Recorded ι σ)) α).Within Develops :=
  becomes.within fun _ _ came => .of_machine came rfl

/-! ## Relations that span what operations do -/

/-- A relation between sessions that spans whatever operations do by themselves: quiet
steps of the machine, moments that are noted, and what a host is consulted about.  What
initializations do is another matter. -/
structure Spans (relation : Session ι (Recorded ι σ) → Session ι (Recorded ι σ) → Prop) : Prop
    extends IsPreorder (Session ι (Recorded ι σ)) relation where
  machine : ∀ session {after : Machine ι}, session.machine.Becomes after →
    session.machine.Quiet after → relation session { session with machine := after }
  note : ∀ event session, relation session (Recorded.noted event session)
  consult : ∀ (change : σ → σ) session, relation session
    { session with host := { session.host with state := change session.host.state } }

theorem spans_develops : Spans (Develops : Session ι (Recorded ι σ) → Session ι _ → Prop) where
  machine _ _ becomes _ := .of_machine becomes rfl
  note event session := by
    have same := refl_of Machine.Becomes session.machine
    refine ⟨same, fun moment member => ?_, fun ordered => ?_⟩
    · rcases List.mem_cons.1 member with rfl | earlier
      · exact Or.inr same
      · exact Or.inl earlier
    · -- The machine of the new moment is the present one.
      refine List.pairwise_cons.2 ⟨fun past seen => ?_, ordered⟩
      rcases List.mem_cons.1 seen with rfl | earlier
      · exact same
      · exact (List.pairwise_cons.1 ordered).1 past earlier
  consult _ session := .of_machine (refl_of Machine.Becomes session.machine) rfl

end Session

namespace Call

variable {ι σ : Type} {relation : Session ι (Recorded ι σ) → Session ι (Recorded ι σ) → Prop}

/-- The sessions of the calls are related. -/
def Between (relation : Session ι (Recorded ι σ) → Session ι (Recorded ι σ) → Prop)
    (before after : Call ι (Recorded ι σ)) : Prop :=
  relation before.session after.session

instance [IsPreorder (Session ι (Recorded ι σ)) relation] :
    IsPreorder (Call ι (Recorded ι σ)) (Between relation) where
  refl call := refl_of relation call.session
  trans _ _ _ := trans_of relation

end Call

namespace Session.Spans

open Recorded Setting

variable {ι σ α : Type} {relation : Session ι (Recorded ι σ) → Session ι (Recorded ι σ) → Prop}
  {setting : Setting ι σ} {nested : InitClass ι (Recorded ι σ)}

theorem onMachine (spans : Spans relation) {action : Action (Machine ι) α}
    (becomes : action.Within Machine.Becomes) (quiet : action.Within Machine.Quiet) :
    (Session.onMachine action : Action (Session ι (Recorded ι σ)) α).Within relation := by
  intro session
  rw [Session.onMachine, Action.outcome_within]
  exact spans.machine session (becomes session.machine) (quiet session.machine)

theorem calling (spans : Spans relation) :
    Call.Calling (fun _ (action : Action (Session ι (Recorded ι σ)) _) => action.Within relation)
      fun _ action => action.Within (Call.Between relation) := by
  have := spans.toIsPreorder
  have onMachine {α : Type} {action : Action (Machine ι) α}
      (becomes : action.Within Machine.Becomes) (quiet : action.Within Machine.Quiet) :
      (Call.onMachine action).Within (Call.Between relation) :=
    (spans.onMachine becomes quiet).within fun _ _ related => related
  exact {
    pure := .pure
    get := .get
    bind := .bind
    fail := .fail
    exhausted := .throw _
    clear := fun call => refl_of relation call.session
    countDispatch := onMachine (Machine.becomes_count (by simp)) (Machine.quiet_count fun _ => rfl)
    countDeferral := onMachine (Machine.becomes_count (by simp)) (Machine.quiet_count fun _ => rfl)
    getClass := fun id => onMachine (Machine.becomes_getClass id) (Machine.quiet_getClass id)
    native := fun lawful site call =>
      have reaches := lawful site ⟨call.session.machine, call.operands⟩
      spans.machine call.session reaches.becomes reaches.quiet
    onSession := fun related => related.within fun _ _ related => related }

theorem answered (spans : Spans relation) (result : Except Fault α) :
    (answered result : Action (Session ι (Recorded ι σ)) (Except Fault α)).Within relation := by
  have := spans.toIsPreorder
  unfold Recorded.answered
  split
  · exact .throw _
  · exact .pure _

theorem observe (spans : Spans relation) {thread : ThreadId}
    {operation : Action (Session ι (Recorded ι σ)) α} (related : operation.Within relation) :
    (observe thread operation).Within relation := by
  have := spans.toIsPreorder
  exact .bind (spans.note _) fun _ => .bind related.attempt fun result =>
    .bind (spans.answered result) fun _ => .bind (spans.note _) fun _ => .pure _

section Nested

variable (spans : Spans relation) (related : ∀ thread id, (nested thread id).Within relation)

include spans related

theorem executor (thread : ThreadId) (id : ClassId) :
    ((setting.executor nested).initClass thread id).Within relation := by
  have := spans.toIsPreorder
  exact .bind (spans.observe (related thread id)) fun _ => .ofExcept _

theorem invokeIn (thread : ThreadId) (method : MethodKey) (frame : Frame) :
    ((setting.executor nested).invokeIn thread method frame).Within relation := by
  have := spans.toIsPreorder
  unfold Executor.invokeIn
  split
  · exact .pure _
  next entry found =>
    intro session
    exact spans.calling.complete (spans.executor related) (setting.lawful _ _ found) _ _ _
      ⟨session, frame.operands⟩

theorem perform (thread : ThreadId) (operation : Operation ι α) :
    (setting.perform nested thread operation).Within relation := by
  have := spans.toIsPreorder
  cases operation with
  | request request => exact spans.onMachine (Machine.becomes_perform request) request.quiet
  | initClass id => exact related thread id
  | invoke method arguments =>
    exact .bind (spans.invokeIn related thread method _) fun _ =>
      .bind (.ofExcept _) fun _ => .pure _
  | invokeIn method frame =>
    exact .bind (spans.invokeIn related thread method frame) fun _ =>
      .bind (spans.answered _) fun _ => .pure _

theorem runProgram (thread : ThreadId) (program : Program ι σ) :
    (setting.runProgram nested thread program).Within relation := by
  have := spans.toIsPreorder
  induction program with
  | finish result => exact .pure result
  | operate operation next inductiveStep =>
    exact .bind (spans.observe (spans.perform related thread operation)) inductiveStep
  | consult change next inductiveStep =>
    exact .bind (spans.consult change) fun _ => .bind .get fun session => inductiveStep _

/-- The run of an initializer is counted, which no operation does by itself. -/
theorem runInitializer
    (counts : (Session.onMachine (Machine.count Metrics.countInitializer) :
      Action (Session ι (Recorded ι σ)) _).Within relation)
    (thread : ThreadId) (id : ClassId) (initializer : Option ι) :
    (Initialization.runInitializer setting.host nested thread id initializer).Within relation := by
  have := spans.toIsPreorder
  cases initializer with
  | none => exact .pure _
  | some code =>
    exact .bind counts fun _ => .bind (spans.note _) fun _ =>
      .bind (spans.runProgram related thread _) fun _ => .bind (spans.note _) fun _ => .pure _

end Nested

/-- A run does what operations do and initializes classes. -/
theorem run (spans : Spans relation) {depth : Nat}
    (related : ∀ thread id, (Initialization.initClass setting.host depth thread id).Within relation)
    (tasks : List (Task ι)) : (setting.run depth tasks).Within relation := by
  have := spans.toIsPreorder
  induction tasks with
  | nil => exact .pure _
  | cons task rest inductiveStep =>
    exact .bind (spans.observe (spans.perform related task.thread _)) fun _ => inductiveStep

end Session.Spans

namespace Setting

open Recorded

variable {ι σ α : Type} {setting : Setting ι σ} {nested : InitClass ι (Recorded ι σ)}

/-! ## Initializations develop sessions -/

theorem develops_runInitializer
    (develops : ∀ thread id, (nested thread id).Within Session.Develops) (thread : ThreadId)
    (id : ClassId) (initializer : Option ι) :
    (Initialization.runInitializer setting.host nested thread id initializer).Within
      Session.Develops :=
  Session.spans_develops.runInitializer develops
    (Session.develops_onMachine (Machine.becomes_count (by simp))) thread id initializer

theorem develops_setProgress (id : ClassId) (progress : Progress) :
    (Session.onMachine (Machine.setProgress id progress) :
      Action (Session ι (Recorded ι σ)) Unit).Within Session.Develops :=
  Session.develops_onMachine (Machine.becomes_setProgress id progress)

theorem develops_enter (develops : ∀ thread id, (nested thread id).Within Session.Develops)
    (thread : ThreadId) (id : ClassId) :
    (Initialization.enter setting.host nested thread id).Within Session.Develops := by
  unfold Initialization.enter
  refine .bind (Session.develops_onMachine (Machine.becomes_getClass id)) fun loaded => ?_
  rcases loaded.progress.claim thread with ⟨claim, progress⟩
  cases claim with
  | initialized => exact .pure _
  | recursive => exact .pure _
  | failed => exact .fail _
  | waiting => exact .throw _
  | execute =>
    refine .bind (develops_setProgress id progress) fun _ =>
      .bind (develops_runInitializer develops thread id _) fun result => ?_
    cases result with
    | ok value => exact develops_setProgress id _
    | error reason => exact .bind (develops_setProgress id _) fun _ => .fail _

theorem develops_enterAll (develops : ∀ thread id, (nested thread id).Within Session.Develops)
    (thread : ThreadId) (list : List ClassId) :
    (Initialization.enterAll setting.host nested thread list).Within Session.Develops := by
  induction list with
  | nil => exact .pure _
  | cons id rest inductiveStep =>
    exact .bind (develops_enter develops thread id) fun _ => inductiveStep

theorem develops_initClassWith
    (develops : ∀ thread id, (nested thread id).Within Session.Develops) (thread : ThreadId)
    (id : ClassId) :
    (Initialization.initClassWith setting.host nested thread id).Within Session.Develops := by
  refine .bind .get fun session => .bind (Session.develops_onMachine fun machine => ?_)
    fun list => develops_enterAll develops thread list
  rcases pending_spec (session.machine.area.classIds.length + 1) id machine with
    ⟨result, ended, _⟩
  rw [ended]
  exact refl_of Machine.Becomes machine

theorem develops_initClass (depth : Nat) (thread : ThreadId) (id : ClassId) :
    (Initialization.initClass setting.host depth thread id).Within Session.Develops := by
  induction depth generalizing thread id with
  | zero => exact develops_initClassWith (fun _ _ => .throw _) thread id
  | succ depth inductiveStep => exact develops_initClassWith inductiveStep thread id

theorem develops_perform (develops : ∀ thread id, (nested thread id).Within Session.Develops)
    (thread : ThreadId) (operation : Operation ι α) :
    (setting.perform nested thread operation).Within Session.Develops :=
  Session.spans_develops.perform develops thread operation

theorem develops_run (depth : Nat) (tasks : List (Task ι)) :
    (setting.run depth tasks).Within Session.Develops :=
  Session.spans_develops.run (develops_initClass depth) tasks

section Start

variable (setting : Setting ι σ) (number : Nat) (definitions : List (ClassDefinition ι))
  (state : σ) (depth : Nat) (tasks : List (Task ι))

theorem develops_start : (start number definitions state).Develops
    ((setting.run depth tasks).outcome (start number definitions state)).2 :=
  develops_run depth tasks _

/-- Whatever is seen in a run has come about from a new machine. -/
theorem becomes_of_run {machine : Machine ι} (seen : machine ∈
    ((setting.run depth tasks).outcome (start number definitions state)).2.machines) :
    (Machine.initial number definitions).Becomes machine := by
  have developed := develops_start setting number definitions state depth tasks
  rcases Session.mem_machines.1 seen with rfl | ⟨moment, recorded, rfl⟩
  · exact developed.machine
  · rcases developed.moments moment recorded with impossible | came
    · cases impossible
    · exact came

theorem ordered_run :
    ((setting.run depth tasks).outcome (start number definitions state)).2.Ordered :=
  (develops_start setting number definitions state depth tasks).ordered
    (List.pairwise_singleton _ _)

end Start

end Setting
end ClassRuntime

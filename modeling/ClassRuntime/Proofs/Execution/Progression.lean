import ClassRuntime.Proofs.Execution.Development
import ClassRuntime.Proofs.Execution.Entering

namespace ClassRuntime

/-!
# How classes progress

Whatever is done in a session, its area changes quietly or by a move of one class at a
time.  A class is claimed before its initializer is run and settled afterwards, and what
makes the latter a move is that nobody else settles a class meanwhile: a class in progress
is left alone by all that happens inside of its initialization.  This holds from any session,
and also if the limits cut an initializer short and leave its class in progress.
-/

namespace Area

variable {ι : Type} {before after : Area ι}

/-- One change of an area: a quiet one, or one class makes a move. -/
inductive Changes (before : Area ι) : Area ι → Prop
  | quiet {after : Area ι} (quiet : before.Quiet after) : Changes before after
  | progress {id : ClassId} {loaded : LoadedClass ι} {progress : Progress}
      (found : before.class? id = some loaded) (moves : loaded.progress.Moves progress) :
      Changes before (before.setProgress id progress)

namespace Changes

/-- Classes come into being unstarted. -/
theorem fresh (changes : before.Changes after) {id : ClassId} {later : LoadedClass ι}
    (unknown : before.class? id = none) (found : after.class? id = some later) :
    later.progress = .notStarted := by
  cases changes with
  | quiet quiet => exact quiet.fresh unknown found
  | progress known moves =>
    rw [class?_setProgress, unknown] at found
    split at found <;> cases found

/-- No class goes back. -/
theorem advances (changes : before.Changes after) : before.Advances after := by
  cases changes with
  | quiet quiet => exact quiet.advances
  | progress found moves => exact advances_setProgress found moves

end Changes

theorem ne_of_running {area : Area ι} {id other : ClassId} {loaded : LoadedClass ι}
    {owner : ThreadId} (found : area.class? id = some loaded)
    (unstarted : loaded.progress = .notStarted)
    (running : area.progress other = .inProgress owner) : id ≠ other := by
  rintro rfl
  rw [progress_eq found, unstarted] at running
  cases running

end Area

namespace Session

open Recorded

variable {ι σ : Type} {before after session : Session ι (Recorded ι σ)}

/-- The second session is reached from the first by changes of the area, and what has been
in progress then still is. -/
structure Progresses (before after : Session ι (Recorded ι σ)) : Prop where
  changes : Relation.ReflTransGen Area.Changes before.machine.area after.machine.area
  running : ∀ {id owner}, before.machine.area.progress id = .inProgress owner →
    after.machine.area.progress id = .inProgress owner

theorem Progresses.of_quiet (quiet : before.machine.area.Quiet after.machine.area) :
    before.Progresses after where
  changes := .single (.quiet quiet)
  running still := (quiet.progress _).trans still

instance : IsPreorder (Session ι (Recorded ι σ)) Progresses where
  refl session := .of_quiet (.refl session.machine.area)
  trans _ _ _ first second :=
    ⟨first.changes.trans second.changes, fun still => second.running (first.running still)⟩

theorem spans_progresses :
    Spans (Progresses : Session ι (Recorded ι σ) → Session ι (Recorded ι σ) → Prop) where
  machine _ _ _ quiet := .of_quiet quiet.area
  note _ session := .of_quiet (.refl session.machine.area)
  consult _ session := .of_quiet (.refl session.machine.area)

section Claim

variable {thread : ThreadId} {id : ClassId} {loaded : LoadedClass ι}

theorem progresses_claimed (found : session.machine.area.class? id = some loaded)
    (unstarted : loaded.progress = .notStarted) (thread : ThreadId) :
    session.Progresses (staged id (.inProgress thread) session) where
  changes := .single <| .progress found <| by
    rw [unstarted]
    exact .claim thread
  running {other _} still := by
    have apart := Area.ne_of_running found unstarted still
    exact (Area.progress_setProgress found _ other).trans ((if_neg apart).trans still)

/-- The course of an initialization from the claim to the end.  The class itself has not
been in progress in the beginning. -/
theorem progresses_settled (found : session.machine.area.class? id = some loaded)
    (unstarted : loaded.progress = .notStarted)
    (between : (staged id (.inProgress thread) session).Progresses after) {progress : Progress}
    (moves : Progress.Moves (.inProgress thread) progress) :
    session.Progresses (staged id progress after) := by
  have claims := progresses_claimed found unstarted thread
  have mine : after.machine.area.progress id = .inProgress thread := by
    apply between.running
    exact (Area.progress_setProgress found _ id).trans (if_pos rfl)
  have started : after.machine.area.progress id ≠ .notStarted := by
    rw [mine]
    simp
  rcases Area.class?_of_started started with ⟨later, foundLater⟩
  constructor
  · refine (trans_of Progresses claims between).changes.tail (.progress foundLater ?_)
    rwa [← Area.progress_eq foundLater, mine]
  · intro other owner still
    have apart := Area.ne_of_running found unstarted still
    have kept := between.running (claims.running still)
    exact (Area.progress_setProgress foundLater _ other).trans ((if_neg apart).trans kept)

end Claim

end Session

namespace Setting

open Recorded

variable {ι σ α : Type} {setting : Setting ι σ} {nested : InitClass ι (Recorded ι σ)}

section Nested

variable (progresses : ∀ thread id, (nested thread id).Within Session.Progresses)

include progresses

theorem progresses_runInitializer (thread : ThreadId) (id : ClassId) (initializer : Option ι) :
    (Initialization.runInitializer setting.host nested thread id initializer).Within
      Session.Progresses :=
  Session.spans_progresses.runInitializer progresses
    (fun session => .of_quiet (.refl session.machine.area)) thread id initializer

theorem progresses_enter (thread : ThreadId) (id : ClassId) :
    (Initialization.enter setting.host nested thread id).Within Session.Progresses := by
  intro session
  rcases enter_cases setting nested thread id session with
    ⟨_, ended⟩ | ⟨fault, ended⟩ | ⟨loaded, found, unstarted⟩
  · rw [ended]
    exact refl_of Session.Progresses session
  · rw [ended]
    exact refl_of Session.Progresses session
  · rcases ran : (Initialization.runInitializer setting.host nested thread id
      loaded.initializer).outcome (staged id (.inProgress thread) session) with ⟨outcome, after⟩
    have runs := (progresses_runInitializer progresses thread id loaded.initializer).related ran
    cases outcome with
    | error fault =>
      rw [outcome_enter_of_cut found unstarted ran]
      exact trans_of Session.Progresses (Session.progresses_claimed found unstarted thread) runs
    | ok result =>
      rw [outcome_enter_of_unstarted found unstarted ran]
      cases result with
      | ok value => exact Session.progresses_settled found unstarted runs (.succeed thread)
      | error reason => exact Session.progresses_settled found unstarted runs (.fail thread)

theorem progresses_enterAll (thread : ThreadId) (list : List ClassId) :
    (Initialization.enterAll setting.host nested thread list).Within Session.Progresses := by
  induction list with
  | nil => exact .pure _
  | cons id rest inductiveStep =>
    exact .bind (progresses_enter progresses thread id) fun _ => inductiveStep

theorem progresses_initClassWith (thread : ThreadId) (id : ClassId) :
    (Initialization.initClassWith setting.host nested thread id).Within Session.Progresses := by
  refine .bind .get fun seen => .bind (fun session => ?_)
    fun list => progresses_enterAll progresses thread list
  rcases pending_spec (seen.machine.area.classIds.length + 1) id session.machine with
    ⟨result, ended, _⟩
  rw [Session.outcome_onMachine_of_same ended]
  exact refl_of Session.Progresses session

end Nested

theorem progresses_initClass (depth : Nat) (thread : ThreadId) (id : ClassId) :
    (Initialization.initClass setting.host depth thread id).Within Session.Progresses := by
  induction depth generalizing thread id with
  | zero => exact progresses_initClassWith (fun _ _ => .throw _) thread id
  | succ depth inductiveStep => exact progresses_initClassWith inductiveStep thread id

/-- Whatever an operation comes to, each class has only made moves. -/
theorem progresses_perform (depth : Nat) (thread : ThreadId) (operation : Operation ι α) :
    (setting.perform (Initialization.initClass setting.host depth) thread operation).Within
      Session.Progresses :=
  Session.spans_progresses.perform (progresses_initClass depth) thread operation

end Setting
end ClassRuntime

import ClassRuntime.Proofs.Execution.Discipline
import ClassRuntime.Proofs.Loader.Lineage

namespace ClassRuntime

/-!
# Entering classes

An initialization sees to the part of a lineage that comes before the first class that is
initialized already, from its end to its beginning.  The search for this part is limited
by the number of classes.  This is enough, since no class occurs twice in a lineage.

Each of these classes is entered.  What this comes to is decided by how far the class is,
and if it has not been started, by its initializer.
-/

/-- How far a class has come once its initializer has come to a result. -/
def Progress.concluded : Except String Unit → Progress
  | .ok () => .initialized
  | .error _ => .failed

namespace Area

variable {ι : Type} {area : Area ι} {id other : ClassId} {chain : List ClassId}

/-- No initialization is under way. -/
def Resting (area : Area ι) : Prop :=
  ∀ id owner, area.progress id ≠ .inProgress owner

/-- Only the classes of the area have to be looked at. -/
theorem resting_of_classIds (settled : ∀ id ∈ area.classIds, (area.progress id).wait?.isSome) :
    area.Resting := by
  intro id owner running
  have started : area.progress id ≠ .notStarted := by
    rw [running]
    simp
  have known := Option.isSome_iff_exists.2 (class?_of_started started)
  have stands := settled id (mem_classIds.2 known)
  rw [running] at stands
  cases stands

/-- The classes of a lineage that come before the first initialized one, or all of them if
there is none, and the topmost of them first. -/
def awaiting (area : Area ι) (chain : List ClassId) : List ClassId :=
  (chain.takeWhile fun id => !(area.progress id).isInitialized).reverse

theorem awaiting_cons (area : Area ι) (id : ClassId) (chain : List ClassId) :
    area.awaiting (id :: chain) =
      if (area.progress id).isInitialized then [] else area.awaiting chain ++ [id] := by
  rw [awaiting, List.takeWhile_cons, awaiting]
  cases (area.progress id).isInitialized with
  | true => rfl
  | false => exact List.reverse_cons

theorem of_mem_awaiting (member : other ∈ area.awaiting chain) :
    other ∈ chain ∧ area.progress other ≠ .initialized := by
  have kept := List.mem_reverse.1 member
  refine ⟨(List.takeWhile_prefix _).subset kept, ?_⟩
  simpa [Progress.isInitialized] using List.all_eq_true.1 List.all_takeWhile other kept

theorem Lineage.nodup_awaiting (lineage : area.Lineage id chain) : (area.awaiting chain).Nodup :=
  List.nodup_reverse.2 (lineage.nodup.sublist (List.takeWhile_prefix _).sublist)

end Area

namespace Initialization

variable {ι σ : Type} {id : ClassId} {chain : List ClassId}

theorem outcome_pending {machine : Machine ι} (lineage : machine.area.Lineage id chain)
    {bound : Nat} (enough : chain.length ≤ bound) :
    (pending bound id).outcome machine = (.ok (machine.area.awaiting chain), machine) := by
  have looked {id : ClassId} {loaded : LoadedClass ι}
      (found : machine.area.class? id = some loaded) :
      (Machine.getClass id).outcome machine = (.ok loaded, machine) := by
    rw [Machine.outcome_getClass]
    exact congrArg (·, machine) (Area.loadedClass_eq_ok found)
  induction lineage generalizing bound with
  | @root id loaded found top =>
    cases bound with
    | zero => cases enough
    | succ bound =>
      rw [pending, Action.outcome_bind, looked found, Area.awaiting_cons, Area.progress_eq found]
      dsimp only
      cases loaded.progress.isInitialized with
      | true => rfl
      | false =>
        rw [top]
        rfl
  | @extend id superclass above inherits lineage inductiveStep =>
    cases bound with
    | zero => cases enough
    | succ bound =>
      rcases inherits with ⟨loaded, found, extended⟩
      rw [pending, Action.outcome_bind, looked found, Area.awaiting_cons, Area.progress_eq found]
      dsimp only
      cases loaded.progress.isInitialized with
      | true => rfl
      | false =>
        rw [if_neg Bool.false_ne_true, if_neg Bool.false_ne_true, extended]
        dsimp only
        rw [Action.outcome_bind, inductiveStep (Nat.le_of_succ_le_succ enough)]
        rfl

/-- An initialization enters the classes that it concerns, one after another. -/
theorem outcome_initClassWith (host : Host ι σ) (nested : InitClass ι σ) (thread : ThreadId)
    {session : Session ι σ} (lineage : session.machine.area.Lineage id chain) :
    (initClassWith host nested thread id).outcome session =
      (enterAll host nested thread (session.machine.area.awaiting chain)).outcome session := by
  have looked := outcome_pending lineage (Nat.le_succ_of_le lineage.length_le)
  rw [initClassWith, Action.outcome_bind, Action.outcome_get]
  dsimp only
  rw [Action.outcome_bind, Session.outcome_onMachine_of_same looked]

/-- How initializers initialize further classes, if as many requests may be nested. -/
def inner (host : Host ι σ) : Nat → InitClass ι σ
  | 0 => fun _ _ => throw .exhausted
  | depth + 1 => initClass host depth

theorem initClass_eq (host : Host ι σ) (depth : Nat) :
    initClass host depth = initClassWith host (inner host depth) := by
  cases depth with
  | zero => rfl
  | succ depth => rfl

end Initialization

namespace Setting

open Recorded

variable {ι σ : Type} {setting : Setting ι σ} {nested : InitClass ι (Recorded ι σ)}
  {thread : ThreadId} {id : ClassId} {session after : Session ι (Recorded ι σ)}
  {loaded : LoadedClass ι}

/-- Nothing has to be done for a class that is ready for the thread. -/
theorem outcome_enter_of_ready (known : (session.machine.area.class? id).isSome)
    (ready : session.machine.area.IsReady thread id) :
    (Initialization.enter setting.host nested thread id).outcome session = (.ok (), session) := by
  rcases Option.isSome_iff_exists.1 known with ⟨loaded, found⟩
  rw [Initialization.enter, Action.outcome_bind, Session.outcome_getClass found]
  rw [Area.IsReady, Area.progress_eq found] at ready
  rcases ready with initialized | mine
  · simp only [initialized, Progress.claim]
    rfl
  · simp only [mine, Progress.claim]
    rfl

theorem outcome_enter_of_failed (found : session.machine.area.class? id = some loaded)
    (failed : loaded.progress = .failed) :
    (Initialization.enter setting.host nested thread id).outcome session =
      (.error (.error (.erroneous loaded.name)), session) := by
  rw [Initialization.enter, Action.outcome_bind, Session.outcome_getClass found]
  simp only [failed, Progress.claim]
  rfl

/-- The run of an initializer is counted, and its start and its end are recorded. -/
theorem outcome_runInitializer_of_ran {counted : Session ι (Recorded ι σ)} {code : ι}
    {result : Except String Unit}
    (counts : (Session.onMachine (Machine.count Metrics.countInitializer)).outcome session =
      (.ok ⟨⟩, counted))
    (ran : (setting.runProgram nested thread (setting.program code thread id)).outcome
      (noted (.entered thread id) counted) = (.ok result, after)) :
    (Initialization.runInitializer setting.host nested thread id (some code)).outcome session =
      (.ok result, noted (.left thread id) after) := by
  rw [Initialization.runInitializer, Action.outcome_bind, counts]
  dsimp only [host, note]
  rw [Action.outcome_bind, Action.outcome_modify]
  dsimp only
  rw [Action.outcome_bind, ran]
  rfl

/-- The class is claimed, its initializer is run, and the class is settled. -/
theorem outcome_enter_of_unstarted (found : session.machine.area.class? id = some loaded)
    (unstarted : loaded.progress = .notStarted) {result : Except String Unit}
    (ran : (Initialization.runInitializer setting.host nested thread id
      loaded.initializer).outcome (staged id (.inProgress thread) session) = (.ok result, after)) :
    (Initialization.enter setting.host nested thread id).outcome session =
      (result.mapError fun reason => .error (.initializationFailed loaded.name reason),
        staged id (.concluded result) after) := by
  have claims : (Session.onMachine (Machine.setProgress id (.inProgress thread))).outcome session =
      (.ok ⟨⟩, staged id (.inProgress thread) session) := rfl
  rw [Initialization.enter, Action.outcome_bind, Session.outcome_getClass found]
  simp only [unstarted, Progress.claim]
  rw [Action.outcome_bind, claims]
  dsimp only
  rw [Action.outcome_bind, ran]
  cases result with
  | ok value => rfl
  | error reason => rfl

/-- The class has been claimed, and stays so if its initializer is cut short. -/
theorem outcome_enter_of_cut (found : session.machine.area.class? id = some loaded)
    (unstarted : loaded.progress = .notStarted) {fault : Fault}
    (ran : (Initialization.runInitializer setting.host nested thread id
      loaded.initializer).outcome (staged id (.inProgress thread) session) =
        (.error fault, after)) :
    (Initialization.enter setting.host nested thread id).outcome session =
      (.error fault, after) := by
  have claims : (Session.onMachine (Machine.setProgress id (.inProgress thread))).outcome session =
      (.ok ⟨⟩, staged id (.inProgress thread) session) := rfl
  rw [Initialization.enter, Action.outcome_bind, Session.outcome_getClass found]
  simp only [unstarted, Progress.claim]
  rw [Action.outcome_bind, claims]
  dsimp only
  rw [Action.outcome_bind, ran]

/-- The thread need not wait for a class, or cannot enter it, or starts it. -/
theorem enter_cases (setting : Setting ι σ) (nested : InitClass ι (Recorded ι σ))
    (thread : ThreadId) (id : ClassId) (session : Session ι (Recorded ι σ)) :
    (session.machine.area.IsReady thread id ∧
      (Initialization.enter setting.host nested thread id).outcome session = (.ok (), session)) ∨
    (∃ fault, (Initialization.enter setting.host nested thread id).outcome session =
      (.error fault, session)) ∨
    ∃ loaded, session.machine.area.class? id = some loaded ∧ loaded.progress = .notStarted := by
  cases read : session.machine.area.loadedClass id with
  | error fault =>
    have looked : (Machine.getClass id).outcome session.machine =
        (.error fault, session.machine) :=
      (Machine.outcome_getClass id _).trans (congrArg (·, session.machine) read)
    refine .inr (.inl ⟨fault, ?_⟩)
    rw [Initialization.enter, Action.outcome_bind, Session.outcome_onMachine_of_same looked]
  | ok loaded =>
    have found := Area.class?_of_loadedClass read
    have known := Option.isSome_iff_exists.2 ⟨loaded, found⟩
    have stands := Area.progress_eq found
    cases stage : loaded.progress with
    | notStarted => exact .inr (.inr ⟨loaded, found, stage⟩)
    | initialized =>
      have ready : session.machine.area.IsReady thread id := Or.inl (stands.trans stage)
      exact .inl ⟨ready, outcome_enter_of_ready known ready⟩
    | failed => exact .inr (.inl ⟨_, outcome_enter_of_failed found stage⟩)
    | inProgress owner =>
      by_cases mine : owner = thread
      · subst mine
        have ready : session.machine.area.IsReady owner id := Or.inr (stands.trans stage)
        exact .inl ⟨ready, outcome_enter_of_ready known ready⟩
      · refine .inr (.inl ⟨.blocked id, ?_⟩)
        rw [Initialization.enter, Action.outcome_bind, Session.outcome_getClass found]
        simp only [stage, Progress.claim, if_neg mine]
        rfl

end Setting
end ClassRuntime

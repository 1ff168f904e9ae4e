import ClassRuntime.Proofs.Execution.Development
import ClassRuntime.Proofs.Execution.Entering
import ClassRuntime.Proofs.Machine.Safety

namespace ClassRuntime

/-!
# What initializations leave behind

A call that waits for a class relies on three things.  Whatever initializers do,
it is a history of the machine, so that what has been loaded stays loaded.  If the
initialization succeeds, the class is ready for the thread, also if it is the thread
itself that is still initializing it.  If it does not, the fault is not one that
would blame a native.  This is true in every session, whether or not its record is in
order.

If the area is grounded, an initialization does not meet a dangling handle either.
It looks at the superclasses of a class that exists, and these exist as well.
-/

namespace Session

variable {ι σ : Type}

/-- The machine of the second session comes about from that of the first. -/
def Becomes (before after : Session ι σ) : Prop :=
  before.machine.Becomes after.machine

end Session

/-- A way to initialize classes on which calls can rely. -/
structure Reliable {ι σ : Type} (initClass : InitClass ι σ) : Prop where
  becomes : ∀ thread id, (initClass thread id).Within Session.Becomes
  fair : ∀ thread id, (initClass thread id).Throws Fault.Fair
  finds : ∀ {thread id session fault}, session.machine.area.Grounded →
    (session.machine.area.class? id).isSome →
      ((initClass thread id).outcome session).1 = .error fault → fault.dangles = false
  readies : ∀ {thread id session after}, (initClass thread id).outcome session = (.ok (), after) →
    after.machine.area.IsReady thread id

/-- Faults with which the initialization of certain classes may end.  With a class its
superclass is a good one as well, and good classes remain good. -/
structure Initializes {ι : Type} (allowed : Fault → Prop) (good : Machine ι → ClassId → Prop) :
    Prop where
  exhausted : allowed .exhausted
  blocked : ∀ id, allowed (.blocked id)
  error : ∀ {cause : RuntimeError}, cause.isBreach = false → allowed (.error cause)
  look : ∀ {machine id fault}, good machine id → machine.area.loadedClass id = .error fault →
    allowed fault
  above : ∀ {machine id loaded superclass}, good machine id →
    machine.area.class? id = some loaded → loaded.superclass = some superclass →
      good machine superclass
  later : ∀ {before after id}, before.Becomes after → good before id → good after id

/-- Faults that do not blame a native are allowed for all classes. -/
theorem initializes_fair {ι : Type} :
    Initializes Fault.Fair fun (_ : Machine ι) (_ : ClassId) => True where
  exhausted := Fault.fair_exhausted
  blocked := Fault.fair_blocked
  error := Fault.fair_error
  look {machine id fault} _ failed := machine.area.fair_loadedClass id fault failed
  above _ _ _ := trivial
  later _ _ := trivial

/-- The classes of a grounded area are initialized without a dangling handle. -/
theorem initializes_grounded {ι : Type} :
    Initializes (fun fault => fault.dangles = false) fun (machine : Machine ι) (id : ClassId) =>
      machine.area.Grounded ∧ (machine.area.class? id).isSome where
  exhausted := rfl
  blocked _ := rfl
  error _ := rfl
  look {machine id fault} good failed := by
    rcases Option.isSome_iff_exists.1 good.2 with ⟨loaded, found⟩
    rw [Area.loadedClass_eq_ok found] at failed
    cases failed
  above {machine id loaded superclass} good found inherits := by
    refine ⟨good.1, good.1.closed (Area.type?_of_class? found) superclass ?_⟩
    exact List.mem_append_left _ (List.mem_append_left _ (Option.mem_toList.2 inherits))
  later becomes good :=
    ⟨becomes.area Machine.spans_staysGrounded good.1, becomes.retains.isSome good.2⟩

namespace Setting

open Recorded

variable {ι σ α : Type} {setting : Setting ι σ} {nested : InitClass ι (Recorded ι σ)}

/-! ## How initializations fail -/

section Fails

variable {allowed : Fault → Prop} {good : Machine ι → ClassId → Prop} {machine : Machine ι}
  {session : Session ι (Recorded ι σ)} {id : ClassId}

theorem sound_getClass (initializes : Initializes allowed good) (fine : good machine id) :
    (Machine.getClass id).Sound Machine.Becomes allowed machine fun loaded after =>
      machine.area.class? id = some loaded ∧ after = machine := by
  constructor
  · exact Machine.becomes_getClass id machine
  · intro fault failed
    rw [Machine.outcome_getClass] at failed
    exact initializes.look fine failed
  · intro loaded read
    rw [Machine.outcome_getClass] at read ⊢
    exact ⟨Area.class?_of_loadedClass read, rfl⟩

theorem sound_pending (initializes : Initializes allowed good) (bound : Nat)
    (fine : good machine id) :
    (Initialization.pending bound id).Sound Machine.Becomes allowed machine fun list after =>
      ∀ other ∈ list, good after other := by
  induction bound generalizing id machine with
  | zero => exact .throw initializes.exhausted
  | succ bound inductiveStep =>
    refine (sound_getClass initializes fine).bind fun loaded middle _ told => ?_
    rcases told with ⟨found, rfl⟩
    split
    · refine .pure ?_
      rintro _ ⟨⟩
    split
    · refine .pure fun other member => ?_
      rw [List.mem_singleton.1 member]
      exact fine
    next superclass inherits =>
      have fineAbove := initializes.above fine found inherits
      refine (inductiveStep fineAbove).bind fun above last becomes goodAbove => ?_
      refine .pure fun other member => ?_
      rcases List.mem_append.1 member with earlier | final
      · exact goodAbove other earlier
      · rw [List.mem_singleton.1 final]
        exact initializes.later becomes fine

theorem sound_onMachine {action : Action (Machine ι) α} {post : α → Machine ι → Prop}
    (sound : action.Sound Machine.Becomes allowed session.machine post) :
    (Session.onMachine action).Sound Session.Develops allowed session fun value after =>
      post value after.machine := by
  have whole : (Session.onMachine action).outcome session =
      ((action.outcome session.machine).1,
        { session with machine := (action.outcome session.machine).2 }) := rfl
  constructor
  · rw [whole]
    exact .of_machine sound.related rfl
  · rw [whole]
    exact sound.fault
  · rw [whole]
    exact sound.result

/-- Whatever faults an initializer has met with, its own failure is one of the
class. -/
theorem throws_runInitializer (thread : ThreadId) (id : ClassId) (initializer : Option ι) :
    (Initialization.runInitializer setting.host nested thread id initializer).Throws
      fun fault => fault = .exhausted := by
  cases initializer with
  | none => exact .pure _
  | some code =>
    exact .bind (.within (.modify _)) fun _ => .bind (.modify _) fun _ =>
      .bind (runProgram_answers thread _) fun _ => .bind (.modify _) fun _ => .pure _

theorem sound_enter (initializes : Initializes allowed good)
    (develops : ∀ thread id, (nested thread id).Within Session.Develops) (thread : ThreadId)
    (fine : good session.machine id) :
    (Initialization.enter setting.host nested thread id).Sound Session.Develops allowed session
      fun _ _ => True := by
  have sets (progress : Progress) (middle : Session ι (Recorded ι σ)) :
      (Session.onMachine (Machine.setProgress id progress)).Sound Session.Develops allowed middle
        fun _ _ => True :=
    .of_within (develops_setProgress id progress) (by rintro _ ⟨⟩)
  refine (sound_onMachine (sound_getClass initializes fine)).bind fun loaded middle _ _ => ?_
  rcases loaded.progress.claim thread with ⟨claim, progress⟩
  cases claim with
  | initialized => exact .pure trivial
  | recursive => exact .pure trivial
  | failed => exact .throw (initializes.error rfl)
  | waiting => exact .throw (initializes.blocked id)
  | execute =>
    have runs (state : Session ι (Recorded ι σ)) :
        (Initialization.runInitializer setting.host nested thread id loaded.initializer).Sound
          Session.Develops allowed state fun _ _ => True := by
      refine .of_within (develops_runInitializer develops thread id _) fun fault failed => ?_
      rw [throws_runInitializer thread id loaded.initializer state fault failed]
      exact initializes.exhausted
    refine (sets progress middle).bind fun _ second _ _ =>
      (runs second).bind fun result third _ _ => ?_
    cases result with
    | ok value => exact sets .initialized third
    | error reason => exact (sets .failed third).bind fun _ _ _ _ => .throw (initializes.error rfl)

theorem sound_enterAll (initializes : Initializes allowed good)
    (develops : ∀ thread id, (nested thread id).Within Session.Develops) (thread : ThreadId)
    {list : List ClassId} (fine : ∀ id ∈ list, good session.machine id) :
    (Initialization.enterAll setting.host nested thread list).Sound Session.Develops allowed session
      fun _ _ => True := by
  induction list generalizing session with
  | nil => exact .pure trivial
  | cons first rest inductiveStep =>
    refine (sound_enter initializes develops thread (fine first List.mem_cons_self)).bind
      fun _ middle developed _ => inductiveStep fun id member => ?_
    exact initializes.later developed.machine (fine id (List.mem_cons_of_mem first member))

theorem sound_initClassWith (initializes : Initializes allowed good)
    (develops : ∀ thread id, (nested thread id).Within Session.Develops) (thread : ThreadId)
    (fine : good session.machine id) :
    (Initialization.initClassWith setting.host nested thread id).Sound Session.Develops allowed
      session fun _ _ => True := by
  refine Action.Sound.get.bind fun seen middle _ told => ?_
  rcases told with ⟨rfl, rfl⟩
  exact (sound_onMachine (sound_pending initializes _ fine)).bind fun list last _ goodOnes =>
    sound_enterAll initializes develops thread goodOnes

theorem sound_initClass (initializes : Initializes allowed good) (depth : Nat) (thread : ThreadId)
    (fine : good session.machine id) :
    (Initialization.initClass setting.host depth thread id).Sound Session.Develops allowed session
      fun _ _ => True := by
  cases depth with
  | zero => exact sound_initClassWith initializes (fun _ _ => .throw _) thread fine
  | succ depth => exact sound_initClassWith initializes (develops_initClass depth) thread fine

end Fails

/-! ## Classes are ready afterwards -/

section Ready

variable {thread : ThreadId} {id : ClassId} {session after : Session ι (Recorded ι σ)}

/-- The last step of an initialization sets the progress of the class, which is
still there. -/
theorem ready_enter (develops : ∀ thread id, (nested thread id).Within Session.Develops)
    (ended : (Initialization.enter setting.host nested thread id).outcome session =
      (.ok (), after)) : after.machine.area.IsReady thread id := by
  rcases enter_cases setting nested thread id session with
    ⟨ready, entered⟩ | ⟨fault, entered⟩ | ⟨loaded, found, unstarted⟩
  · cases entered.symm.trans ended
    exact ready
  · cases entered.symm.trans ended
  · rcases ran : (Initialization.runInitializer setting.host nested thread id
      loaded.initializer).outcome (staged id (.inProgress thread) session) with ⟨outcome, last⟩
    have developed : session.Develops last :=
      trans_of Session.Develops (develops_setProgress id (.inProgress thread) session)
        ((develops_runInitializer develops thread id _).related ran)
    cases outcome with
    | error fault => cases (outcome_enter_of_cut found unstarted ran).symm.trans ended
    | ok result =>
      have entered := (outcome_enter_of_unstarted found unstarted ran).symm.trans ended
      cases result with
      | error reason => cases entered
      | ok value =>
        cases entered
        rcases developed.machine.retains.exists_class found with ⟨later, foundLater, _⟩
        left
        exact (Area.progress_setProgress foundLater .initialized id).trans (if_pos rfl)

/-- The class that is entered last is ready. -/
theorem ready_enterAll (develops : ∀ thread id, (nested thread id).Within Session.Develops)
    {above : List ClassId}
    (ended : (Initialization.enterAll setting.host nested thread (above ++ [id])).outcome session =
      (.ok (), after)) : after.machine.area.IsReady thread id := by
  rw [enterAll_append] at ended
  rcases Action.bind_ok ended with ⟨_, middle, _, last⟩
  rcases Action.bind_ok last with ⟨_, final, entered, finished⟩
  cases finished
  exact ready_enter develops entered

theorem ready_initClassWith (develops : ∀ thread id, (nested thread id).Within Session.Develops)
    (ended : (Initialization.initClassWith setting.host nested thread id).outcome session =
      (.ok (), after)) : after.machine.area.IsReady thread id := by
  rcases Action.bind_ok ended with ⟨seen, same, gets, rest⟩
  cases gets
  rcases Action.bind_ok rest with ⟨list, first, looked, entered⟩
  rcases pending_spec (session.machine.area.classIds.length + 1) id session.machine with
    ⟨result, found, ladder⟩
  rw [Session.onMachine, Action.outcome_within, Prod.mk.injEq] at looked
  rcases looked with ⟨listed, rfl⟩
  dsimp only [Session.machinePart] at listed entered
  rw [found] at listed entered
  cases ladder list listed with
  | ready initialized =>
    cases entered
    exact Or.inl initialized
  | root found top =>
    rw [← List.nil_append [id]] at entered
    exact ready_enterAll develops entered
  | step inherits ladder => exact ready_enterAll develops entered

end Ready

/-! ## Calls can rely on initializations -/

theorem reliable_initClass (depth : Nat) :
    Reliable (Initialization.initClass setting.host depth) where
  becomes thread id session := (develops_initClass depth thread id session).machine
  fair thread _ _ fault failed :=
    (sound_initClass initializes_fair depth thread trivial).fault fault failed
  finds {thread _ _ fault} grounded known failed :=
    (sound_initClass initializes_grounded depth thread ⟨grounded, known⟩).fault fault failed
  readies ended := by
    cases depth with
    | zero => exact ready_initClassWith (fun _ _ => .throw _) ended
    | succ depth => exact ready_initClassWith (develops_initClass depth) ended

/-- The initializations for which calls wait are observed, which makes no
difference to the result and to the machine. -/
theorem outcome_executor (thread : ThreadId) (id : ClassId)
    (session : Session ι (Recorded ι σ)) :
    ∃ last, ((setting.executor nested).initClass thread id).outcome session =
        (((nested thread id).outcome (noted (.started thread) session)).1, last) ∧
      last.machine = ((nested thread id).outcome (noted (.started thread) session)).2.machine := by
  rw [executor, Action.outcome_bind, outcome_observe]
  rcases (nested thread id).outcome (noted (.started thread) session) with ⟨fault | value, after⟩
  · cases fault with
    | exhausted => exact ⟨_, rfl, rfl⟩
    | error | danglingLoader | danglingClass | blocked => exact ⟨_, rfl, rfl⟩
  · exact ⟨_, rfl, rfl⟩

theorem reliable_executor (reliable : Reliable nested) :
    Reliable (setting.executor nested).initClass where
  becomes thread id session := by
    rcases outcome_executor thread id session with ⟨last, ended, same⟩
    have became := reliable.becomes thread id (noted (.started thread) session)
    rw [ended]
    rwa [Session.Becomes, ← same] at became
  fair thread id session fault failed := by
    rcases outcome_executor thread id session with ⟨last, ended, _⟩
    rw [ended] at failed
    exact reliable.fair thread id _ fault failed
  finds {thread id session fault} grounded known failed := by
    rcases outcome_executor thread id session with ⟨last, ended, _⟩
    rw [ended] at failed
    have groundedThere : (noted (.started thread) session).machine.area.Grounded := grounded
    exact reliable.finds groundedThere known failed
  readies {thread id session after} ended := by
    rcases outcome_executor thread id session with ⟨last, observed, same⟩
    rw [observed, Prod.mk.injEq] at ended
    rcases ended with ⟨succeeded, rfl⟩
    rw [same]
    exact reliable.readies (Prod.ext succeeded rfl)

end Setting
end ClassRuntime

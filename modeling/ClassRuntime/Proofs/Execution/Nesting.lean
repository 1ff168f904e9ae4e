import ClassRuntime.Proofs.Execution.Depth
import ClassRuntime.Proofs.Machine.Invariants

namespace ClassRuntime

/-!
# Initializers that initialize classes

Initializers may ask for the initialization of any classes, of their own class, of classes
above and below it, and of classes whose initializers ask for theirs in turn.  It does not
go on for ever, because an initializer is run for a class that has not been started, and
this class has been started while its initializer runs.  So each level of nesting has fewer
classes left than the one above it.  This is what counts, and neither the hierarchy nor the
order in which classes ask for each other.

A request for a class that is being initialized already is answered at once.  All classes
that are being initialized belong to the thread itself, so that it never waits for another
one.
-/

namespace Area

variable {ι : Type} {area : Area ι} {id : ClassId} {loaded : LoadedClass ι}

/-- The number of classes whose initialization has not started. -/
def unstarted (area : Area ι) : Nat :=
  area.classes.countP fun loaded => loaded.progress.isNotStarted

/-- Whatever is being initialized is being initialized by the thread. -/
def Owned (area : Area ι) (thread : ThreadId) : Prop :=
  ∀ id owner, area.progress id = .inProgress owner → owner = thread

/-- The thread does not have to wait for others. -/
theorem Owned.claim_ne_waiting {thread : ThreadId} (owned : area.Owned thread) (id : ClassId) :
    ((area.progress id).claim thread).1 ≠ .waiting := by
  cases stage : area.progress id with
  | notStarted | initialized | failed => simp [Progress.claim]
  | inProgress owner => simp [Progress.claim, owned id owner stage]

theorem unstarted_setProgress (found : area.class? id = some loaded) (progress : Progress) :
    (area.setProgress id progress).unstarted + loaded.progress.isNotStarted.toNat =
      area.unstarted + progress.isNotStarted.toNat :=
  countP_updateClass _ found fun loaded => { loaded with progress }

end Area

/-- The initializer of a class is left. -/
def Event.isLeft : Event → Bool
  | .left _ _ => true
  | _ => false

/-- An answer of the runtime: a result, or an error that the runtime reports. -/
def Fault.Reported (fault : Fault) : Prop :=
  ∃ cause, fault = .error cause

/-- All that the program does is to ask for the initialization of known classes and to
consult its host.  What it would do if the runtime did not answer at all does not matter. -/
inductive Program.Initializes {ι σ : Type} (known : ClassId → Prop) : Program ι σ → Prop
  | finish (result : Except String Unit) : Initializes known (.finish result)
  | initClass {id : ClassId} {next : Except Fault Unit → Program ι σ} (there : known id)
      (rest : ∀ answer, (∀ fault, answer = .error fault → fault.Reported) →
        Initializes known (next answer)) :
      Initializes known (.operate (.initClass id) next)
  | consult {change : σ → σ} {next : σ → Program ι σ}
      (rest : ∀ state, Initializes known (next state)) : Initializes known (.consult change next)

namespace Recorded

variable {ι σ α : Type} {thread : ThreadId} {bound : Nat} {id : ClassId}
  {first second : List (Moment ι)} {before middle after session : Session ι (Recorded ι σ)}

/-- How often initializers have been entered. -/
def opened (moments : List (Moment ι)) : Nat :=
  moments.countP fun moment => moment.event.entered?.isSome

/-- How often initializers have been left. -/
def closed (moments : List (Moment ι)) : Nat :=
  moments.countP fun moment => moment.event.isLeft

theorem opened_append (first second : List (Moment ι)) :
    opened (first ++ second) = opened first + opened second :=
  List.countP_append

theorem closed_append (first second : List (Moment ι)) :
    closed (first ++ second) = closed first + closed second :=
  List.countP_append

/-- Moments, the latest first, at which initializers of the thread alone are running.
There are never more of them than the bound, and in the end none of those that have been
entered since. -/
structure Nested (thread : ThreadId) (bound : Nat) (moments : List (Moment ι)) : Prop where
  owned : ∀ moment ∈ moments, moment.machine.area.Owned thread
  balanced : opened moments = closed moments
  bounded : ∀ past, past <:+ moments → opened past ≤ closed past + bound

theorem Nested.nil : Nested thread bound ([] : List (Moment ι)) where
  owned := by simp
  balanced := rfl
  bounded past suffix := by
    rw [List.suffix_nil.1 suffix]
    exact Nat.zero_le _

theorem Nested.append (former : Nested thread bound first) (latter : Nested thread bound second) :
    Nested thread bound (second ++ first) where
  owned moment member := by
    rcases List.mem_append.1 member with later | earlier
    · exact latter.owned moment later
    · exact former.owned moment earlier
  balanced := by
    rw [opened_append, closed_append, former.balanced, latter.balanced]
  bounded past suffix := by
    rcases suffix with ⟨since, split⟩
    -- The cut is in the first part or in the second.
    rcases List.append_eq_append_iff.1 split with ⟨part, inside, rfl⟩ | ⟨part, _, inside⟩
    · have inner := latter.bounded part ⟨since, inside.symm⟩
      have same := former.balanced
      rw [opened_append, closed_append]
      omega
    · exact former.bounded past ⟨part, inside.symm⟩

/-- A moment at which no initializer is entered or left. -/
theorem Nested.of_quiet {event : Event} {machine : Machine ι} (entered : event.entered? = none)
    (left : event.isLeft = false) (owned : machine.area.Owned thread) :
    Nested thread bound [⟨event, machine⟩] where
  owned moment member := by
    rw [List.mem_singleton.1 member]
    exact owned
  balanced := by simp [opened, closed, entered, left]
  bounded past suffix := by
    have none : opened [(⟨event, machine⟩ : Moment ι)] = 0 := by simp [opened, entered]
    have fewer : opened past ≤ opened [(⟨event, machine⟩ : Moment ι)] :=
      suffix.sublist.countP_le
    omega

/-- The initializer of one class is entered and left, and meanwhile fewer may be nested. -/
theorem Nested.wrap {entering leaving : Machine ι} (inner : Nested thread bound first)
    (id : ClassId) (enters : entering.area.Owned thread) (leaves : leaving.area.Owned thread) :
    Nested thread (bound + 1)
      (⟨.left thread id, leaving⟩ :: (first ++ [⟨.entered thread id, entering⟩])) := by
  let entrance : Moment ι := ⟨.entered thread id, entering⟩
  let exit : Moment ι := ⟨.left thread id, leaving⟩
  have counts : opened (exit :: (first ++ [entrance])) =
      closed (exit :: (first ++ [entrance])) := by
    calc opened ([exit] ++ (first ++ [entrance]))
        = opened first + 1 := by
          rw [opened_append, opened_append]
          exact Nat.zero_add _
      _ = closed first + 1 := by rw [inner.balanced]
      _ = closed ([exit] ++ (first ++ [entrance])) := by
          rw [closed_append, closed_append]
          exact Nat.add_comm _ _
  refine ⟨fun moment member => ?_, counts, fun past suffix => ?_⟩
  · rcases List.mem_cons.1 member with rfl | member
    · exact leaves
    rcases List.mem_append.1 member with here | last
    · exact inner.owned moment here
    · rw [List.mem_singleton.1 last]
      exact enters
  · rcases List.suffix_cons_iff.1 suffix with rfl | ⟨since, split⟩
    · exact Nat.le_trans (Nat.le_of_eq counts) (Nat.le_add_right _ _)
    rcases List.append_eq_append_iff.1 split with ⟨part, inside, rfl⟩ | ⟨part, _, single⟩
    · have within := inner.bounded part ⟨since, inside.symm⟩
      have entered : opened [entrance] = 1 := rfl
      rw [opened_append, closed_append, entered]
      omega
    · have fewer : opened past ≤ opened [entrance] := by
        rw [single]
        exact (List.suffix_append part past).sublist.countP_le
      have entered : opened [entrance] = 1 := rfl
      omega

/-- What an action can make of a session in which initializers of the thread are running:
the same are running in the end, and in between no more of them are nested than told. -/
structure Contained (thread : ThreadId) (bound : Nat) (before after : Session ι (Recorded ι σ)) :
    Prop where
  advances : before.machine.area.Advances after.machine.area
  running : ∀ id owner, after.machine.area.progress id = .inProgress owner ↔
    before.machine.area.progress id = .inProgress owner
  unstarted : after.machine.area.unstarted ≤ before.machine.area.unstarted
  nested : ∃ added, after.host.moments = added ++ before.host.moments ∧ Nested thread bound added

/-- The area is the same. -/
theorem Contained.of_area (same : after.machine.area = before.machine.area)
    {added : List (Moment ι)} (moments : after.host.moments = added ++ before.host.moments)
    (nested : Nested thread bound added) : Contained thread bound before after where
  advances := by
    rw [same]
    exact refl_of Area.Advances _
  running _ _ := by rw [same]
  unstarted := by rw [same]
  nested := ⟨added, moments, nested⟩

instance : IsPreorder (Session ι (Recorded ι σ)) (Contained thread bound) where
  refl _ := .of_area rfl rfl .nil
  trans _ _ _ first second := by
    rcases first.nested with ⟨former, moments, nested⟩
    rcases second.nested with ⟨latter, momentsLater, nestedLater⟩
    refine ⟨trans_of Area.Advances first.advances second.advances,
      fun id owner => (second.running id owner).trans (first.running id owner),
      Nat.le_trans second.unstarted first.unstarted, latter ++ former, ?_,
      nested.append nestedLater⟩
    rw [momentsLater, moments, List.append_assoc]

/-- The thread can initialize known classes: they have lineages, no other thread is
initializing any classes, and not too many are left. -/
structure Prepared (known : ClassId → Prop) (thread : ThreadId) (bound : Nat)
    (session : Session ι (Recorded ι σ)) : Prop where
  owned : session.machine.area.Owned thread
  lineage : ∀ id, known id → ∃ chain, session.machine.area.Lineage id chain
  few : session.machine.area.unstarted ≤ bound

variable {known : ClassId → Prop}

theorem Prepared.later {limit : Nat} (prepared : Prepared known thread limit before)
    (contained : Contained thread bound before after) : Prepared known thread limit after where
  owned id owner running := prepared.owned id owner ((contained.running id owner).1 running)
  lineage id there := by
    rcases prepared.lineage id there with ⟨chain, lineage⟩
    exact ⟨chain, lineage.mono contained.advances.type⟩
  few := Nat.le_trans contained.unstarted prepared.few

theorem contained_noted {event : Event} (entered : event.entered? = none)
    (left : event.isLeft = false) (owned : session.machine.area.Owned thread) :
    Contained thread bound session (noted event session) :=
  .of_area rfl rfl (.of_quiet entered left owned : Nested thread bound [⟨event, session.machine⟩])

end Recorded

namespace Setting

open Recorded

variable {ι σ α : Type} {setting : Setting ι σ} {nested : InitClass ι (Recorded ι σ)}
  {thread : ThreadId} {bound : Nat} {known : ClassId → Prop} {id : ClassId}
  {session : Session ι (Recorded ι σ)}

/-- The initialization of known classes ends within the bound in every prepared session. -/
def Nests (known : ClassId → Prop) (thread : ThreadId) (bound : Nat)
    (nested : InitClass ι (Recorded ι σ)) : Prop :=
  ∀ id session, known id → Prepared known thread bound session →
    (nested thread id).Sound (Contained thread bound) Fault.Reported session fun _ _ => True

theorem nests_observe {operation : Action (Session ι (Recorded ι σ)) α}
    (prepared : Prepared known thread bound session)
    (sound : operation.Sound (Contained thread bound) Fault.Reported
      (noted (.started thread) session) fun _ _ => True) :
    (observe thread operation).Sound (Contained thread bound) (fun _ => False) session
      fun answer _ => ∀ fault, answer = .error fault → fault.Reported := by
  have starts : Contained thread bound session (noted (.started thread) session) :=
    contained_noted rfl rfl prepared.owned
  have between := sound.related
  have reported := sound.fault
  rcases ended : operation.outcome (noted (.started thread) session) with ⟨result, after⟩
  rw [ended] at between reported
  have finished : result ≠ .error .exhausted := by
    rintro rfl
    rcases reported _ rfl with ⟨cause, impossible⟩
    cases impossible
  have whole : (observe thread operation).outcome session =
      (.ok result, noted (.ended thread) after) := by
    rw [outcome_observe, ended]
    split
    next cut =>
      cases cut
      exact absurd rfl finished
    next same =>
      cases same
      rfl
  have ends : Contained thread bound after (noted (.ended thread) after) :=
    contained_noted rfl rfl ((prepared.later starts).later between).owned
  exact .of_ok whole (trans_of (Contained thread bound) (trans_of _ starts between) ends) reported

theorem nests_runProgram {program : Program ι σ} (initializes : program.Initializes known)
    (nests : Nests known thread bound nested) (prepared : Prepared known thread bound session) :
    (setting.runProgram nested thread program).Sound (Contained thread bound) (fun _ => False)
      session fun _ _ => True := by
  induction initializes generalizing session with
  | finish result => exact .pure trivial
  | @initClass id next there rest inductiveStep =>
    have starts : Contained thread bound session (noted (.started thread) session) :=
      contained_noted rfl rfl prepared.owned
    refine (nests_observe prepared (nests id _ there (prepared.later starts))).bind
      fun answer middle contained reported => ?_
    exact inductiveStep answer reported (prepared.later contained)
  | @consult change next rest inductiveStep =>
    let consulted : Session ι (Recorded ι σ) :=
      { session with host := { session.host with state := change session.host.state } }
    have contained : Contained thread bound session consulted := .of_area rfl rfl .nil
    have consults : (modify fun session : Session ι (Recorded ι σ) =>
        { session with host := { session.host with state := change session.host.state } } :
          Action (Session ι (Recorded ι σ)) PUnit).Sound (Contained thread bound) (fun _ => False)
            session fun _ after => after = consulted :=
      .of_ok rfl contained rfl
    refine consults.bind fun _ middle _ same => ?_
    subst same
    refine Action.Sound.get.bind fun seen middle _ looked => ?_
    rcases looked with ⟨rfl, rfl⟩
    exact inductiveStep _ (prepared.later contained)

/-! ## Initializations -/

/-- The session in which a class has been claimed has one class less left. -/
theorem prepared_staged {loaded : LoadedClass ι}
    (prepared : Prepared known thread (bound + 1) session)
    (found : session.machine.area.class? id = some loaded)
    (unstarted : loaded.progress = .notStarted) :
    Prepared known thread bound (staged id (.inProgress thread) session) where
  owned other owner running := by
    dsimp only [staged] at running
    rw [Area.progress_setProgress found] at running
    split at running
    · cases running
      rfl
    · exact prepared.owned other owner running
  lineage other there := by
    rcases prepared.lineage other there with ⟨chain, lineage⟩
    have advances : session.machine.area.Advances
        (session.machine.area.setProgress id (.inProgress thread)) := by
      apply Area.advances_setProgress found
      rw [unstarted]
      exact .claim thread
    exact ⟨chain, lineage.mono advances.type⟩
  few := by
    have counts := Area.unstarted_setProgress found (.inProgress thread)
    have few := prepared.few
    rw [unstarted] at counts
    simp only [Progress.isNotStarted, decide_true, Bool.toNat_true, reduceCtorEq, decide_false,
      Bool.toNat_false, Nat.add_zero] at counts
    dsimp only [staged]
    omega

/-- The initializer of a class that has been claimed comes to a result. -/
theorem exists_runInitializer (nests : Nests known thread bound nested)
    (initializes : ∀ code id, (setting.program code thread id).Initializes known)
    (prepared : Prepared known thread bound session) (initializer : Option ι) :
    ∃ result after, (Initialization.runInitializer setting.host nested thread id
        initializer).outcome session = (.ok result, after) ∧
      Contained thread (bound + 1) session after := by
  cases initializer with
  | none => exact ⟨_, session, rfl, refl_of (Contained thread (bound + 1)) session⟩
  | some code =>
    let counted : Session ι (Recorded ι σ) :=
      { session with
        machine := { session.machine with metrics := session.machine.metrics.countInitializer } }
    let entered := noted (.entered thread id) counted
    have inside : Prepared known thread bound entered :=
      ⟨prepared.owned, prepared.lineage, prepared.few⟩
    have sound : (setting.runProgram nested thread (setting.program code thread id)).Sound
        (Contained thread bound) (fun _ => False) entered fun _ _ => True :=
      nests_runProgram (initializes code id) nests inside
    rcases ran : (setting.runProgram nested thread (setting.program code thread id)).outcome
      entered with ⟨fault | result, concluded⟩
    · exact absurd (congrArg Prod.fst ran) fun failed => sound.fault fault failed
    · have between : Contained thread bound entered concluded := by
        have related := sound.related
        rw [ran] at related
        exact related
      rcases between.nested with ⟨added, moments, nests⟩
      refine ⟨result, noted (.left thread id) concluded, outcome_runInitializer_of_ran rfl ran,
        between.advances, between.running, between.unstarted, _, ?_,
        nests.wrap id inside.owned (inside.later between).owned⟩
      have before : entered.host.moments =
          ⟨.entered thread id, entered.machine⟩ :: session.host.moments := rfl
      rw [noted, moments, before]
      simp

/-- A class that has been claimed is settled once its initializer has come to a result. -/
theorem contained_settled {loaded : LoadedClass ι} {after : Session ι (Recorded ι σ)}
    (found : session.machine.area.class? id = some loaded)
    (unstarted : loaded.progress = .notStarted) {progress : Progress}
    (moves : Progress.Moves (.inProgress thread) progress)
    (between : Contained thread bound (staged id (.inProgress thread) session) after) :
    Contained thread bound session (staged id progress after) := by
  have claims : session.machine.area.Advances
      (session.machine.area.setProgress id (.inProgress thread)) := by
    apply Area.advances_setProgress found
    rw [unstarted]
    exact .claim thread
  have running : after.machine.area.progress id = .inProgress thread := by
    rw [between.running]
    dsimp only [staged]
    rw [Area.progress_setProgress found, if_pos rfl]
  have started : after.machine.area.progress id ≠ .notStarted := by
    rw [running]
    simp
  rcases Area.class?_of_started started with ⟨later, foundLater⟩
  have runningLater : later.progress = .inProgress thread :=
    (Area.progress_eq foundLater).symm.trans running
  have ends : after.machine.area.Advances (after.machine.area.setProgress id progress) := by
    apply Area.advances_setProgress foundLater
    rw [runningLater]
    exact moves
  have fewer : (session.machine.area.setProgress id (.inProgress thread)).unstarted ≤
      session.machine.area.unstarted := by
    have counts := Area.unstarted_setProgress found (.inProgress thread)
    simp only [Progress.isNotStarted, reduceCtorEq, decide_false, Bool.toNat_false,
      Nat.add_zero] at counts
    omega
  refine ⟨trans_of Area.Advances (trans_of Area.Advances claims between.advances) ends,
    Area.running_settled found unstarted foundLater moves between.running, ?_, between.nested⟩
  have counts := Area.unstarted_setProgress foundLater progress
  have settled : progress.isNotStarted = false := by
    cases moves with
    | succeed => rfl
    | fail => rfl
  rw [runningLater, settled] at counts
  have within := between.unstarted
  dsimp only [staged] at within ⊢
  simp only [Progress.isNotStarted, reduceCtorEq, decide_false, Bool.toNat_false,
    Nat.add_zero] at counts
  omega

/-- A class whose superclass has been seen to is initialized within the bound. -/
theorem nests_enter (nests : ∀ fewer, fewer < bound → Nests known thread fewer nested)
    (initializes : ∀ code id, (setting.program code thread id).Initializes known)
    (prepared : Prepared known thread bound session)
    (there : (session.machine.area.class? id).isSome) :
    (Initialization.enter setting.host nested thread id).Sound (Contained thread bound)
      Fault.Reported session fun _ _ => True := by
  have same := refl_of (Contained thread bound) session
  rcases Option.isSome_iff_exists.1 there with ⟨loaded, found⟩
  have stages := Area.progress_eq found
  cases stage : loaded.progress with
  | initialized =>
    have ready : session.machine.area.IsReady thread id := Or.inl (stages.trans stage)
    exact .of_ok (outcome_enter_of_ready there ready) same trivial
  | inProgress owner =>
    cases prepared.owned id owner (stages.trans stage)
    have ready : session.machine.area.IsReady thread id := Or.inr (stages.trans stage)
    exact .of_ok (outcome_enter_of_ready there ready) same trivial
  | failed =>
    exact .of_error (outcome_enter_of_failed found stage) same ⟨_, rfl⟩
  | notStarted =>
    cases bound with
    | zero =>
      have counts := Area.unstarted_setProgress found (.inProgress thread)
      rw [stage, Nat.le_zero.1 prepared.few] at counts
      cases counts
    | succ bound =>
      rcases exists_runInitializer (nests bound (Nat.lt_succ_self bound)) initializes
        (prepared_staged prepared found stage) loaded.initializer with ⟨result, after, ran, between⟩
      have entered := outcome_enter_of_unstarted found stage ran
      cases result with
      | ok value =>
        exact .of_ok entered (contained_settled found stage (.succeed thread) between) trivial
      | error reason =>
        exact .of_error entered (contained_settled found stage (.fail thread) between) ⟨_, rfl⟩

theorem nests_enterAll (nests : ∀ fewer, fewer < bound → Nests known thread fewer nested)
    (initializes : ∀ code id, (setting.program code thread id).Initializes known)
    {list : List ClassId} (prepared : Prepared known thread bound session)
    (there : ∀ id ∈ list, (session.machine.area.class? id).isSome) :
    (Initialization.enterAll setting.host nested thread list).Sound (Contained thread bound)
      Fault.Reported session fun _ _ => True := by
  induction list generalizing session with
  | nil => exact .pure trivial
  | cons first rest inductiveStep =>
    refine (nests_enter nests initializes prepared (there first List.mem_cons_self)).bind
      fun _ middle contained _ => inductiveStep (prepared.later contained) fun id member => ?_
    have known := there id (List.mem_cons_of_mem first member)
    rcases Option.isSome_iff_exists.1 known with ⟨loaded, found⟩
    rcases contained.advances id loaded found with ⟨later, foundLater, _⟩
    exact Option.isSome_iff_exists.2 ⟨later, foundLater⟩

theorem nests_initClassWith (nests : ∀ fewer, fewer < bound → Nests known thread fewer nested)
    (initializes : ∀ code id, (setting.program code thread id).Initializes known) :
    Nests known thread bound (Initialization.initClassWith setting.host nested) := by
  intro id session there prepared
  rcases prepared.lineage id there with ⟨chain, lineage⟩
  refine .congr (Initialization.outcome_initClassWith setting.host nested thread lineage) ?_
  refine nests_enterAll nests initializes prepared fun other member => ?_
  exact lineage.known (Area.of_mem_awaiting member).1

/-- As many levels are enough as there are classes left. -/
theorem nests_initClass
    (initializes : ∀ code id, (setting.program code thread id).Initializes known) (depth : Nat)
    {bound : Nat} (enough : bound ≤ depth) :
    Nests known thread bound (Initialization.initClass setting.host depth) := by
  induction depth generalizing bound with
  | zero =>
    have none : bound = 0 := Nat.le_zero.1 enough
    subst none
    exact nests_initClassWith (fun fewer less => absurd less (Nat.not_lt_zero fewer)) initializes
  | succ depth inductiveStep =>
    exact nests_initClassWith (fun fewer less =>
      inductiveStep (Nat.le_of_lt_succ (Nat.lt_of_lt_of_le less enough))) initializes

/-- If initializers ask for the initialization of any known classes and consult their host,
every initialization ends, in every session in which none is under way.  It ends in the
same way however many requests may be nested, provided that these are as many as there are
classes that have not been started.  At no moment are more initializers running than that,
and at no moment would the thread have to wait for another one.  In the end no
initialization is under way. -/
theorem initialization_ends (setting : Setting ι σ) {thread : ThreadId}
    {session : Session ι (Recorded ι σ)} (lineal : session.machine.area.Lineal)
    (resting : session.machine.area.Resting)
    (initializes : ∀ code id, (setting.program code thread id).Initializes
      fun other => (session.machine.area.class? other).isSome)
    {id : ClassId} (known : (session.machine.area.class? id).isSome) :
    ∃ result after added,
      (∀ depth, session.machine.area.unstarted ≤ depth →
        (Initialization.initClass setting.host depth thread id).outcome session =
          (result, after)) ∧
      (result = .ok () ∨ ∃ cause, result = .error (.error cause)) ∧
      after.machine.area.Resting ∧ after.host.moments = added ++ session.host.moments ∧
      (∀ moment ∈ added, ∀ other,
        ((moment.machine.area.progress other).claim thread).1 ≠ .waiting) ∧
      ∀ past, past <:+ added → opened past ≤ closed past + session.machine.area.unstarted := by
  have prepared : Prepared (fun other => (session.machine.area.class? other).isSome) thread
      session.machine.area.unstarted session :=
    ⟨fun other owner running => absurd running (resting other owner), lineal, Nat.le_refl _⟩
  have sound := nests_initClass initializes session.machine.area.unstarted (Nat.le_refl _) id
    session known prepared
  rcases ended : (Initialization.initClass setting.host session.machine.area.unstarted thread
    id).outcome session with ⟨result, after⟩
  have contained := sound.related
  have reported := sound.fault
  rw [ended] at contained reported
  rcases contained.nested with ⟨added, moments, nested⟩
  have finished : result ≠ .error .exhausted := by
    rintro rfl
    rcases reported _ rfl with ⟨cause, impossible⟩
    cases impossible
  refine ⟨result, after, added, fun depth enough => ?_, ?_, ?_, moments,
    fun moment member => (nested.owned moment member).claim_ne_waiting, nested.bounded⟩
  · rw [prolongs_initClass enough thread id session (by rwa [ended]), ended]
  · cases result with
    | ok value => exact Or.inl rfl
    | error fault =>
      rcases reported fault rfl with ⟨cause, rfl⟩
      exact Or.inr ⟨cause, rfl⟩
  · intro other owner running
    exact resting other owner ((contained.running other owner).1 running)

/-- Two classes that initialize each other and themselves.  The second, a subclass of the
first, fails in the end. -/
def circular : Setting Bool Unit where
  registry := Native.builtinRegistry
  lawful := Native.lawful_builtinRegistry
  program upper _ _ :=
    if upper then
      .operate (.initClass ⟨.bootstrap, 11⟩) fun _ =>
        .operate (.initClass ⟨.bootstrap, 10⟩) fun _ => .finish (.ok ())
    else .operate (.initClass ⟨.bootstrap, 10⟩) fun _ => .finish (.error "broken")
  limit := 2

/-- The case of these two classes. -/
theorem initialization_ends_circular :
    let upper : ClassDefinition Bool := .ordinary "Upper"
    let lower : ClassDefinition Bool := .ordinary "Lower"
    let definitions : List (ClassDefinition Bool) :=
      [{ ClassDefinition.ordinary ClassName.object with superName := none },
        { upper with initializer := some true },
        { lower.extending "Upper" with initializer := some false }]
    let machine := ((Machine.load .bootstrap "Lower").outcome (.initial 0 definitions)).2
    let session : Session Bool (Recorded Bool Unit) := ⟨machine, (), []⟩
    ∃ result after, (∀ depth, 12 ≤ depth →
        (Initialization.initClass circular.host depth ⟨1⟩ ⟨.bootstrap, 10⟩).outcome session =
          (result, after)) ∧
      (result = .ok () ∨ ∃ cause, result = .error (.error cause)) ∧
      after.host.entries = [⟨.bootstrap, 11⟩, ⟨.bootstrap, 10⟩] ∧ after.machine.area.Resting := by
  intro upper lower definitions machine session
  have reachable : session.machine.Reachable :=
    (Machine.reachable_initial 0 definitions).perform (.load .bootstrap "Lower")
  have resting : session.machine.area.Resting := Area.resting_of_classIds (by decide +kernel)
  have known : (session.machine.area.class? ⟨.bootstrap, 10⟩).isSome := by decide +kernel
  have knownLower : (session.machine.area.class? ⟨.bootstrap, 11⟩).isSome := by decide +kernel
  have initializes (code : Bool) (id : ClassId) : (circular.program code ⟨1⟩ id).Initializes
      fun other => (session.machine.area.class? other).isSome := by
    cases code with
    | true => exact .initClass knownLower fun _ _ => .initClass known fun _ _ => .finish _
    | false => exact .initClass known fun _ _ => .finish _
  have left : session.machine.area.unstarted = 12 := by decide +kernel
  have entries : ((Initialization.initClass circular.host 12 ⟨1⟩ ⟨.bootstrap, 10⟩).outcome
      session).2.host.entries = [⟨.bootstrap, 11⟩, ⟨.bootstrap, 10⟩] := by
    decide +kernel
  rcases circular.initialization_ends reachable.lineal resting initializes known with
    ⟨result, after, _, ended, told, idleAfter, _⟩
  rw [left] at ended
  rw [ended 12 (Nat.le_refl 12)] at entries
  exact ⟨result, after, ended, told, entries, idleAfter⟩

end Setting
end ClassRuntime

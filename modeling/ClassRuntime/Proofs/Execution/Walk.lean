import ClassRuntime.Proofs.Execution.Entering
import ClassRuntime.Proofs.Machine.Invariants

namespace ClassRuntime

/-!
# Walking down a lineage

If initializers leave the runtime alone, an initialization is a walk down those classes
of a lineage that have not been initialized.  It stops at the first class that has failed
before, and at the first one whose initializer fails now.  An initializer may still
consult its host, so that whether it fails can depend on which others have been run.

What a walk does to a class depends on where it stops, and on nothing else.  The classes
that have been passed are initialized, and a class whose initializer has failed is a
failed one.  All the others stay as they are, also those further down.
-/

/-! ## Programs that leave the runtime alone -/

namespace Program

variable {ι σ : Type}

/-- The program performs no operations. -/
inductive Aloof : Program ι σ → Prop
  | finish (result : Except String Unit) : Aloof (.finish result)
  | consult {change : σ → σ} {next : σ → Program ι σ} (rest : ∀ state, Aloof (next state)) :
      Aloof (.consult change next)

/-- Begun in the first state of the host, the program comes to a result and leaves the
second state. -/
inductive Concludes : Program ι σ → σ → Except String Unit → σ → Prop
  | finish (result : Except String Unit) (state : σ) : Concludes (.finish result) state result state
  | consult {change : σ → σ} {next : σ → Program ι σ} {state last : σ}
      {result : Except String Unit} (rest : Concludes (next (change state)) (change state) result
        last) : Concludes (.consult change next) state result last

theorem Aloof.concludes {program : Program ι σ} (aloof : program.Aloof) (state : σ) :
    ∃ result last, program.Concludes state result last := by
  induction aloof generalizing state with
  | finish result => exact ⟨result, state, .finish result state⟩
  | @consult change next _ inductiveStep =>
    rcases inductiveStep (change state) (change state) with ⟨result, last, rest⟩
    exact ⟨result, last, .consult rest⟩

end Program

/-- How far a class has come when the first classes have been initialized and another one
has perhaps failed. -/
def Progress.turned (done : List ClassId) (spoilt : Option ClassId) (id : ClassId)
    (progress : Progress) : Progress :=
  if id ∈ done then .initialized else if id ∈ spoilt then .failed else progress

/-- The classes in the list that have initializers. -/
def Area.withInitializer {ι : Type} (area : Area ι) (list : List ClassId) : List ClassId :=
  list.filter fun id => (area.class? id).any fun loaded => loaded.initializer.isSome

theorem Area.withInitializer_cons {ι : Type} {area : Area ι} {id : ClassId} {loaded : LoadedClass ι}
    (found : area.class? id = some loaded) (rest : List ClassId) :
    area.withInitializer (id :: rest) =
      (loaded.initializer.map fun _ => id).toList ++ area.withInitializer rest := by
  rw [withInitializer, List.filter_cons, found, Option.any_some, withInitializer]
  cases loaded.initializer with
  | none => rfl
  | some code => rfl

namespace Recorded

variable {ι σ : Type} {before middle after : Session ι (Recorded ι σ)} {first rest : List ClassId}
  {turn onward : ClassId → Progress → Progress}

/-- The initializers of the classes in the list have been entered in this order, and
classes have been turned.  Nothing else has happened to the machine. -/
structure Turned (ran : List ClassId) (turn : ClassId → Progress → Progress)
    (before after : Session ι (Recorded ι σ)) : Prop where
  classes : ∀ id, after.machine.area.class? id =
    (before.machine.area.class? id).map fun loaded =>
      { loaded with progress := turn id loaded.progress }
  machine : after.machine =
    { before.machine with
      area := after.machine.area
      metrics :=
        { before.machine.metrics with
          staticInitializersRun := before.machine.metrics.staticInitializersRun + ran.length } }
  entries : after.host.entries = ran.reverse ++ before.host.entries

namespace Turned

theorem refl (session : Session ι (Recorded ι σ)) :
    Turned [] (fun _ progress => progress) session session where
  classes id := by simp
  machine := rfl
  entries := rfl

theorem trans (former : Turned first turn before middle)
    (latter : Turned rest onward middle after) :
    Turned (first ++ rest) (fun id => onward id ∘ turn id) before after where
  classes id := by
    rw [latter.classes, former.classes, Option.map_map]
    rfl
  machine := by
    rw [latter.machine, former.machine, List.length_append, ← Nat.add_assoc]
  entries := by
    rw [latter.entries, former.entries, List.reverse_append, List.append_assoc]

/-- Only what is done to classes that exist matters. -/
theorem congr (turned : Turned first turn before after)
    (same : ∀ id progress, turn id progress = onward id progress) :
    Turned first onward before after where
  classes id := by
    rw [turned.classes]
    exact Option.map_congr fun loaded _ => by rw [same]
  machine := turned.machine
  entries := turned.entries

theorem class?_of_kept (turned : Turned first turn before after) {id : ClassId}
    (kept : ∀ progress, turn id progress = progress) :
    after.machine.area.class? id = before.machine.area.class? id := by
  rw [turned.classes]
  simp only [kept, Option.map_id']

theorem progress_eq (turned : Turned first turn before after) {id : ClassId}
    {loaded : LoadedClass ι} (found : before.machine.area.class? id = some loaded) :
    after.machine.area.progress id = turn id loaded.progress := by
  rw [Area.progress, turned.classes, found]
  rfl

theorem withInitializer (turned : Turned first turn before after) (list : List ClassId) :
    after.machine.area.withInitializer list = before.machine.area.withInitializer list := by
  unfold Area.withInitializer
  congr 1
  funext id
  rw [turned.classes]
  cases before.machine.area.class? id with
  | none => rfl
  | some loaded => rfl

end Turned
end Recorded

namespace Setting

open Recorded

variable {ι σ : Type} {setting : Setting ι σ} {nested : InitClass ι (Recorded ι σ)}
  {thread : ThreadId} {id : ClassId} {session : Session ι (Recorded ι σ)} {state last : σ}
  {area other : Area ι} {list done : List ClassId} {spoilt : Option ClassId}
  {result : Except Fault Unit}

/-! ## Single classes -/

/-- What comes of the initializer of a class, if it has one. -/
inductive Verdict (setting : Setting ι σ) (thread : ThreadId) (id : ClassId) :
    Option ι → σ → Except String Unit → σ → Prop
  | idle (state : σ) : Verdict setting thread id none state (.ok ()) state
  | ran {code : ι} {state last : σ} {result : Except String Unit}
      (concludes : (setting.program code thread id).Concludes state result last) :
      Verdict setting thread id (some code) state result last

theorem exists_verdict (aloof : ∀ code id, (setting.program code thread id).Aloof)
    (initializer : Option ι) (state : σ) :
    ∃ result last, setting.Verdict thread id initializer state result last := by
  cases initializer with
  | none => exact ⟨_, _, .idle state⟩
  | some code =>
    rcases (aloof code id).concludes state with ⟨result, last, concludes⟩
    exact ⟨result, last, .ran concludes⟩

theorem outcome_runProgram {program : Program ι σ} {result : Except String Unit}
    (concludes : program.Concludes session.host.state result last) :
    (setting.runProgram nested thread program).outcome session =
      (.ok result, { session with host := { session.host with state := last } }) := by
  generalize same : session.host.state = state at concludes
  induction concludes generalizing session with
  | finish result state =>
    subst same
    rfl
  | @consult change next state last result _ inductiveStep =>
    subst same
    let consulted : Session ι (Recorded ι σ) :=
      { session with host := { session.host with state := change session.host.state } }
    have same : consulted.host.state = change session.host.state := rfl
    exact inductiveStep same

theorem outcome_runInitializer (nested : InitClass ι (Recorded ι σ)) {initializer : Option ι}
    {result : Except String Unit}
    (verdict : setting.Verdict thread id initializer session.host.state result last) :
    ∃ after, (Initialization.runInitializer setting.host nested thread id initializer).outcome
        session = (.ok result, after) ∧ after.host.state = last ∧
      Turned (initializer.map fun _ => id).toList (fun _ progress => progress) session after := by
  cases verdict with
  | idle state => exact ⟨session, rfl, rfl, .refl session⟩
  | @ran code state last result concludes =>
    let counted : Session ι (Recorded ι σ) :=
      { session with
        machine := { session.machine with metrics := session.machine.metrics.countInitializer } }
    let entered := noted (.entered thread id) counted
    let concluded := { entered with host := { entered.host with state := last } }
    have ran : (setting.runProgram nested thread (setting.program code thread id)).outcome entered =
        (.ok result, concluded) := outcome_runProgram concludes
    refine ⟨noted (.left thread id) concluded, outcome_runInitializer_of_ran rfl ran, rfl, ?_⟩
    exact ⟨fun _ => Option.map_id'.symm, rfl, rfl⟩

/-- The class is set to the given progress. -/
theorem turned_staged (id : ClassId) (progress : Progress) (session : Session ι (Recorded ι σ)) :
    Turned [] (fun other before => if id = other then progress else before) session
      (staged id progress session) where
  classes other := by
    dsimp only [staged]
    rw [Area.class?_setProgress]
    split
    · rfl
    · rw [Option.map_id']
  machine := rfl
  entries := rfl

theorem outcome_enter (nested : InitClass ι (Recorded ι σ)) {loaded : LoadedClass ι}
    (found : session.machine.area.class? id = some loaded)
    (unstarted : loaded.progress = .notStarted) {result : Except String Unit}
    (verdict : setting.Verdict thread id loaded.initializer session.host.state result last) :
    ∃ after, (Initialization.enter setting.host nested thread id).outcome session =
        (result.mapError fun reason => .error (.initializationFailed loaded.name reason), after) ∧
      after.host.state = last ∧
      Turned (loaded.initializer.map fun _ => id).toList
        (fun other before => if id = other then .concluded result else before) session after := by
  have started : setting.Verdict thread id loaded.initializer
      (staged id (.inProgress thread) session).host.state result last := verdict
  rcases outcome_runInitializer nested started with ⟨middle, ran, ends, turned⟩
  refine ⟨staged id (.concluded result) middle, outcome_enter_of_unstarted found unstarted ran,
    ends, ?_⟩
  have between := (turned_staged id (.inProgress thread) session).trans turned
  have whole := between.trans (turned_staged id (.concluded result) middle)
  rw [List.nil_append, List.append_nil] at whole
  refine whole.congr fun other before => ?_
  dsimp only [Function.comp]
  split
  · rfl
  · rfl

/-! ## Whole walks -/

/-- A walk down a list of classes: the state of the host before, the classes that are
initialized, the class whose initializer fails, if one does, the result, and the state of
the host after. -/
inductive Walk (setting : Setting ι σ) (thread : ThreadId) (area : Area ι) :
    List ClassId → σ → List ClassId → Option ClassId → Except Fault Unit → σ → Prop
  | complete (state : σ) : Walk setting thread area [] state [] none (.ok ()) state
  /-- The class has failed before. -/
  | barred {id : ClassId} {rest : List ClassId} {loaded : LoadedClass ι} (state : σ)
      (found : area.class? id = some loaded) (failed : loaded.progress = .failed) :
      Walk setting thread area (id :: rest) state [] none (.error (.error (.erroneous loaded.name)))
        state
  /-- The initializer of the class fails. -/
  | broken {id : ClassId} {rest : List ClassId} {loaded : LoadedClass ι} {state last : σ}
      {reason : String} (found : area.class? id = some loaded)
      (unstarted : loaded.progress = .notStarted)
      (verdict : setting.Verdict thread id loaded.initializer state (.error reason) last) :
      Walk setting thread area (id :: rest) state [] (some id)
        (.error (.error (.initializationFailed loaded.name reason))) last
  /-- The class is initialized, and the walk goes on. -/
  | passed {id : ClassId} {rest done : List ClassId} {loaded : LoadedClass ι}
      {state middle last : σ} {spoilt : Option ClassId} {result : Except Fault Unit}
      (found : area.class? id = some loaded) (unstarted : loaded.progress = .notStarted)
      (verdict : setting.Verdict thread id loaded.initializer state (.ok ()) middle)
      (onward : Walk setting thread area rest middle done spoilt result last) :
      Walk setting thread area (id :: rest) state (id :: done) spoilt result last

namespace Walk

/-- The classes that are concerned come first in the list. -/
theorem isPrefix (walk : setting.Walk thread area list state done spoilt result last) :
    done ++ spoilt.toList <+: list := by
  induction walk with
  | complete => exact List.prefix_refl []
  | barred => exact List.nil_prefix
  | broken => exact ⟨_, rfl⟩
  | passed _ _ _ _ inductiveStep => exact List.cons_prefix_cons.2 ⟨rfl, inductiveStep⟩

theorem ok_iff (walk : setting.Walk thread area list state done spoilt result last) :
    result = .ok () ↔ done = list := by
  induction walk with
  | complete => exact iff_of_true rfl rfl
  | barred => exact iff_of_false (by simp) (by simp)
  | broken => exact iff_of_false (by simp) (by simp)
  | passed _ _ _ _ inductiveStep =>
    rw [inductiveStep, List.cons.injEq, eq_self_iff_true, true_and]

/-- Only the classes in the list are looked at. -/
theorem congr (walk : setting.Walk thread area list state done spoilt result last)
    (same : ∀ id ∈ list, other.class? id = area.class? id) :
    setting.Walk thread other list state done spoilt result last := by
  induction walk with
  | complete state => exact .complete state
  | barred state found failed =>
    exact .barred state ((same _ List.mem_cons_self).trans found) failed
  | broken found unstarted verdict =>
    exact .broken ((same _ List.mem_cons_self).trans found) unstarted verdict
  | passed found unstarted verdict _ inductiveStep =>
    exact .passed ((same _ List.mem_cons_self).trans found) unstarted verdict
      (inductiveStep fun id member => same id (List.mem_cons_of_mem _ member))

end Walk

/-- The classes can be entered: each has failed or not been started. -/
def Open (area : Area ι) (list : List ClassId) : Prop :=
  ∀ id ∈ list, ∃ loaded, area.class? id = some loaded ∧
    (loaded.progress = .notStarted ∨ loaded.progress = .failed)

theorem outcome_enterAll_cons (first : ClassId) (rest : List ClassId) :
    (Initialization.enterAll setting.host nested thread (first :: rest)).outcome session =
      match (Initialization.enter setting.host nested thread first).outcome session with
      | (.ok _, middle) =>
        (Initialization.enterAll setting.host nested thread rest).outcome middle
      | (.error fault, middle) => (.error fault, middle) := by
  rw [Initialization.enterAll, Action.outcome_bind]
  rcases (Initialization.enter setting.host nested thread first).outcome session with
    ⟨fault | value, middle⟩
  · rfl
  · rfl

/-- A class whose initializer fails is where a walk stops. -/
theorem turned_broken {first : ClassId} {loaded : LoadedClass ι} {reason : String}
    {middle : Session ι (Recorded ι σ)}
    (found : session.machine.area.class? first = some loaded)
    (turned : Turned (loaded.initializer.map fun _ => first).toList
      (fun other before => if first = other then .concluded (.error reason) else before)
      session middle) :
    Turned (session.machine.area.withInitializer ([] ++ (some first).toList))
      (Progress.turned [] (some first)) session middle := by
  have ran := session.machine.area.withInitializer_cons found []
  rw [Option.toList_some, List.nil_append, ran, Area.withInitializer, List.filter_nil,
    List.append_nil]
  refine turned.congr fun id progress => ?_
  simp only [Progress.turned, Progress.concluded, List.not_mem_nil, if_false, Option.mem_some_iff]

/-- A class that is initialized comes before what the rest of a walk turns, and does not fail
later on. -/
theorem turned_passed {first : ClassId} {loaded : LoadedClass ι}
    {middle after : Session ι (Recorded ι σ)}
    (found : session.machine.area.class? first = some loaded) (sound : first ∉ spoilt)
    (turned : Turned (loaded.initializer.map fun _ => first).toList
      (fun other before => if first = other then .concluded (.ok ()) else before) session middle)
    (onward : Turned (middle.machine.area.withInitializer (done ++ spoilt.toList))
      (Progress.turned done spoilt) middle after) :
    Turned (session.machine.area.withInitializer (first :: done ++ spoilt.toList))
      (Progress.turned (first :: done) spoilt) session after := by
  rw [List.cons_append, Area.withInitializer_cons found, ← turned.withInitializer]
  refine (turned.trans onward).congr fun id progress => ?_
  simp only [Function.comp, Progress.turned, Progress.concluded, List.mem_cons]
  by_cases here : first = id
  · subst here
    simp [sound]
  · simp [here, Ne.symm here]

/-- To enter classes one after another is to walk down the list. -/
theorem exists_walk (nested : InitClass ι (Recorded ι σ))
    (aloof : ∀ code id, (setting.program code thread id).Aloof)
    (opened : Open session.machine.area list) (nodup : list.Nodup) :
    ∃ done spoilt result after,
      (Initialization.enterAll setting.host nested thread list).outcome session = (result, after) ∧
      setting.Walk thread session.machine.area list session.host.state done spoilt result
        after.host.state ∧
      Turned (session.machine.area.withInitializer (done ++ spoilt.toList))
        (Progress.turned done spoilt) session after := by
  induction list generalizing session with
  | nil =>
    exact ⟨[], none, .ok (), session, rfl, .complete _, (Turned.refl session).congr fun _ _ => rfl⟩
  | cons first rest inductiveStep =>
    rcases List.nodup_cons.1 nodup with ⟨once, nodupRest⟩
    rcases opened first List.mem_cons_self with ⟨loaded, found, unstarted | failed⟩
    · rcases exists_verdict aloof loaded.initializer session.host.state with
        ⟨value, state, verdict⟩
      rcases outcome_enter nested found unstarted verdict with
        ⟨middle, entered, rfl, turned⟩
      cases value with
      | error reason =>
        refine ⟨[], some first, _, middle, ?_, .broken found unstarted verdict,
          turned_broken found turned⟩
        rw [outcome_enterAll_cons, entered]
        rfl
      | ok value =>
        have kept (id : ClassId) (member : id ∈ rest) :
            middle.machine.area.class? id = session.machine.area.class? id := by
          refine turned.class?_of_kept fun progress => if_neg ?_
          rintro rfl
          exact once member
        have openedRest : Open middle.machine.area rest := by
          intro id member
          rw [kept id member]
          exact opened id (List.mem_cons_of_mem first member)
        rcases inductiveStep openedRest nodupRest with
          ⟨done, spoilt, result, after, ended, walk, onward⟩
        have sound : first ∉ spoilt := fun again =>
          once (walk.isPrefix.subset (List.mem_append_right _ (Option.mem_toList.2 again)))
        refine ⟨first :: done, spoilt, result, after, ?_, .passed found unstarted verdict
          (walk.congr fun id member => (kept id member).symm),
          turned_passed found sound turned onward⟩
        rw [outcome_enterAll_cons, entered]
        exact ended
    · refine ⟨[], none, _, session, ?_, .barred _ found failed,
        (Turned.refl session).congr fun _ _ => rfl⟩
      rw [outcome_enterAll_cons, outcome_enter_of_failed found failed]

/-- The initialization of a class with a lineage is a walk, however many requests may be
nested. -/
theorem exists_walk_initClass (depth : Nat)
    (aloof : ∀ code id, (setting.program code thread id).Aloof)
    (resting : session.machine.area.Resting)
    {chain : List ClassId} (lineage : session.machine.area.Lineage id chain) :
    ∃ done spoilt result after,
      (Initialization.initClass setting.host depth thread id).outcome session = (result, after) ∧
      setting.Walk thread session.machine.area (session.machine.area.awaiting chain)
        session.host.state done spoilt result after.host.state ∧
      Turned (session.machine.area.withInitializer (done ++ spoilt.toList))
        (Progress.turned done spoilt) session after := by
  have opened : Open session.machine.area (session.machine.area.awaiting chain) := by
    intro other member
    rcases Area.of_mem_awaiting member with ⟨listed, waits⟩
    rcases Option.isSome_iff_exists.1 (lineage.known listed) with ⟨loaded, found⟩
    have running := resting other
    rw [Area.progress_eq found] at waits running
    refine ⟨loaded, found, ?_⟩
    cases stage : loaded.progress with
    | notStarted => exact Or.inl rfl
    | inProgress owner => exact absurd stage (running owner)
    | initialized => exact absurd stage waits
    | failed => exact Or.inr rfl
  rw [Initialization.initClass_eq, Initialization.outcome_initClassWith _ _ _ lineage]
  exact exists_walk (Initialization.inner setting.host depth) aloof opened lineage.nodup_awaiting

/-- In every reachable machine in which no initialization is under way, and for all
initializers that leave the runtime alone, the initialization of a class is a walk down
those classes of its lineage that come before the first initialized one.  It succeeds if
all of them are initialized.  Otherwise it has stopped at one that had failed before, or at
one whose initializer has failed.  The initializers of the classes that have been
initialized or have failed have been run, once each and from the top, and counted.  All
other classes are as they were. -/
theorem initialization_walks (setting : Setting ι σ) (depth : Nat) {thread : ThreadId}
    (aloof : ∀ code id, (setting.program code thread id).Aloof)
    {session : Session ι (Recorded ι σ)} (reachable : session.machine.Reachable)
    (resting : session.machine.area.Resting) {id : ClassId}
    (known : (session.machine.area.class? id).isSome) :
    let area := session.machine.area
    ∃ chain done spoilt result after, area.Lineage id chain ∧
      (Initialization.initClass setting.host depth thread id).outcome session = (result, after) ∧
      setting.Walk thread area (area.awaiting chain) session.host.state done spoilt result
        after.host.state ∧
      done ++ spoilt.toList <+: area.awaiting chain ∧
      (result = .ok () ↔ done = area.awaiting chain) ∧
      Turned (area.withInitializer (done ++ spoilt.toList)) (Progress.turned done spoilt)
        session after := by
  intro area
  rcases reachable.lineal id known with ⟨chain, lineage⟩
  rcases exists_walk_initClass depth aloof resting lineage with
    ⟨done, spoilt, result, after, ended, walk, turned⟩
  exact ⟨chain, done, spoilt, result, after, lineage, ended, walk, walk.isPrefix, walk.ok_iff,
    turned⟩

/-- Initializers that count how many of them have been run, the second of which fails. -/
def counting : Setting Unit Nat where
  registry := Native.builtinRegistry
  lawful := Native.lawful_builtinRegistry
  program _ _ _ := .consult (· + 1) fun count =>
    .finish (if count = 2 then .error "too late" else .ok ())
  limit := 2

/-- The case of four classes below one another, of which the first has no initializer. -/
theorem initialization_walks_counting :
    let base : ClassDefinition Unit := .ordinary "Base"
    let derived : ClassDefinition Unit := .ordinary "Derived"
    let leaf : ClassDefinition Unit := .ordinary "Leaf"
    let definitions : List (ClassDefinition Unit) :=
      [{ ClassDefinition.ordinary ClassName.object with superName := none },
        { base with initializer := some () },
        { derived.extending "Base" with initializer := some () },
        { leaf.extending "Derived" with initializer := some () }]
    let machine := ((Machine.load .bootstrap "Leaf").outcome (.initial 0 definitions)).2
    let session : Session Unit (Recorded Unit Nat) := ⟨machine, 0, []⟩
    let class? (index : Nat) : ClassId := ⟨.bootstrap, index⟩
    ∃ chain done spoilt result after, machine.area.Lineage (class? 12) chain ∧
      (Initialization.initClass counting.host 0 ⟨1⟩ (class? 12)).outcome session =
        (result, after) ∧
      counting.Walk ⟨1⟩ machine.area (machine.area.awaiting chain) 0 done spoilt result
        after.host.state ∧
      result = .error (.error (.initializationFailed "Derived" "too late")) ∧
      after.host.entries = [class? 11, class? 10] ∧
      [9, 10, 11, 12].map (fun index => after.machine.area.progress (class? index)) =
        [.initialized, .initialized, .failed, .notStarted] := by
  intro base derived leaf definitions machine session class?
  have reachable : session.machine.Reachable :=
    (Machine.reachable_initial 0 definitions).perform (.load .bootstrap "Leaf")
  have resting : session.machine.area.Resting := Area.resting_of_classIds (by decide +kernel)
  have aloof (code : Unit) (id : ClassId) : (counting.program code ⟨1⟩ id).Aloof :=
    .consult fun _ => .finish _
  have known : (session.machine.area.class? (class? 12)).isSome := by decide +kernel
  rcases counting.initialization_walks 0 aloof reachable resting known with
    ⟨chain, done, spoilt, result, after, lineage, ended, walk, _⟩
  have failed : ((Initialization.initClass counting.host 0 ⟨1⟩ (class? 12)).outcome session).1 =
      .error (.error (.initializationFailed "Derived" "too late")) := by
    decide +kernel
  have entries : ((Initialization.initClass counting.host 0 ⟨1⟩ (class? 12)).outcome
      session).2.host.entries = [class? 11, class? 10] := by
    decide +kernel
  have stages : [9, 10, 11, 12].map (fun index =>
      ((Initialization.initClass counting.host 0 ⟨1⟩ (class? 12)).outcome
        session).2.machine.area.progress (class? index)) =
        [.initialized, .initialized, .failed, .notStarted] := by
    decide +kernel
  rw [ended] at failed entries stages
  exact ⟨chain, done, spoilt, result, after, lineage, ended, walk, failed, entries, stages⟩

end Setting
end ClassRuntime

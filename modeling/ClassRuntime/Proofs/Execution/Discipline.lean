import ClassRuntime.Proofs.Execution.Keeping

namespace ClassRuntime

/-!
# The discipline of static initialization

The programs of initializers keep a session in order because all they do is to
perform operations.  The initialization of a class does because the classes
above it are entered first, so that each finds its superclass ready.  Programs
initialize further classes in turn, and the argument for them is by induction
on how deep that goes.  What holds of a whole run follows.
-/

namespace Session

variable {ι σ α : Type} {session : Session ι σ}

theorem outcome_onMachine_of_same {action : Action (Machine ι) α} {result : Except Fault α}
    (same : action.outcome session.machine = (result, session.machine)) :
    (onMachine action).outcome session = (result, session) := by
  rw [onMachine, Action.outcome_within]
  exact congrArg (fun outcome => (outcome.1, { session with machine := outcome.2 })) same

theorem outcome_getClass {id : ClassId} {loaded : LoadedClass ι}
    (found : session.machine.area.class? id = some loaded) :
    (onMachine (Machine.getClass id)).outcome session = (.ok loaded, session) :=
  outcome_onMachine_of_same <| (Machine.outcome_getClass id _).trans <|
    congrArg (·, session.machine) (Area.loadedClass_eq_ok found)

end Session

namespace Setting

open Recorded

variable {ι σ α : Type} {setting : Setting ι σ} {nested : InitClass ι (Recorded ι σ)}
  {session after : Session ι (Recorded ι σ)}

/-! ## Programs -/

theorem orders_perform (orders : ∀ thread id, Orders (nested thread id)) (thread : ThreadId)
    (operation : Operation ι α) : Orders (setting.perform nested thread operation) := by
  have initializes (thread : ThreadId) (id : ClassId) :
      Orders ((setting.executor nested).initClass thread id) :=
    .bind (orders_observe (orders thread id)) fun answer => .unseen fun session => by
      rw [Action.outcome_ofExcept]
  cases operation with
  | request request => exact orders_onMachine request.quiet
  | initClass id => exact orders thread id
  | invoke method arguments =>
    exact orders_invoke setting.lawful initializes thread method arguments
  | invokeIn method frame =>
    intro session orderly finished
    rcases invokeIn_later setting.lawful initializes thread method frame orderly with
      ⟨result, last, after, ended, later⟩
    unfold perform at finished ⊢
    rw [Action.outcome_bind, ended] at finished ⊢
    by_cases cut : result = .error .exhausted
    · subst cut
      exact absurd rfl finished
    · dsimp only
      rw [Action.outcome_bind, outcome_answered cut]
      exact later cut

theorem orders_runProgram (orders : ∀ thread id, Orders (nested thread id)) (thread : ThreadId)
    (program : Program ι σ) : Orders (setting.runProgram nested thread program) := by
  induction program with
  | finish result => exact .pure result
  | operate operation next inductiveStep =>
    exact .bind (orders_observe (orders_perform orders thread operation)) inductiveStep
  | consult change next inductiveStep =>
    refine .bind ?_ fun _ => .bind .get fun session => inductiveStep _
    intro session orderly _
    exact ⟨orderly.proceed rfl (refl_of Area.Advances _) orderly.agreed orderly.climbing,
      refl_of Area.Advances _, fun _ _ => Iff.rfl⟩

theorem runProgram_answers (thread : ThreadId) (program : Program ι σ) :
    Answers (setting.runProgram nested thread program) := by
  induction program with
  | finish result => exact .pure result
  | operate operation next inductiveStep =>
    exact .bind (observe_answers thread _) inductiveStep
  | consult change next inductiveStep =>
    exact .bind (.modify _) fun _ => .bind .get fun session => inductiveStep _

/-! ## Initialization -/

/-- The classes that are initialized for a class: the superclasses from the
last one below an initialized one, or from the root, and the class itself. -/
inductive Ladder (area : Area ι) : ClassId → List ClassId → Prop
  | ready {id : ClassId} (initialized : area.progress id = .initialized) : Ladder area id []
  | root {id : ClassId} {loaded : LoadedClass ι} (found : area.class? id = some loaded)
      (top : loaded.superclass = none) : Ladder area id [id]
  | step {id superclass : ClassId} {above : List ClassId}
      (inherits : area.Extends id superclass) (ladder : Ladder area superclass above) :
      Ladder area id (above ++ [id])

/-- The classes are found without any change. -/
theorem pending_spec (bound : Nat) (id : ClassId) (machine : Machine ι) :
    ∃ result, (Initialization.pending bound id).outcome machine = (result, machine) ∧
      ∀ list, result = .ok list → Ladder machine.area id list := by
  induction bound generalizing id with
  | zero => exact ⟨_, rfl, by simp⟩
  | succ bound inductiveStep =>
    unfold Initialization.pending
    rw [Action.outcome_bind, Machine.outcome_getClass]
    cases read : machine.area.loadedClass id with
    | error fault => exact ⟨_, rfl, by simp⟩
    | ok loaded =>
      have found := Area.class?_of_loadedClass read
      dsimp only
      split
      next initialized =>
        refine ⟨_, rfl, ?_⟩
        rintro _ ⟨⟩
        apply Ladder.ready
        rw [Area.progress_eq found]
        exact of_decide_eq_true initialized
      next =>
        split
        next top =>
          refine ⟨_, rfl, ?_⟩
          rintro _ ⟨⟩
          exact .root found top
        next superclass above =>
          rcases inductiveStep superclass with ⟨result, ended, ladder⟩
          rw [Action.outcome_bind, ended]
          cases result with
          | error fault => exact ⟨_, rfl, by simp⟩
          | ok list =>
            refine ⟨_, rfl, ?_⟩
            rintro _ ⟨⟩
            exact .step ⟨loaded, found, above⟩ (ladder list rfl)

theorem enterAll_append (host : Host ι σ) (nested : InitClass ι σ) (thread : ThreadId)
    (first rest : List ClassId) :
    Initialization.enterAll host nested thread (first ++ rest) =
      (Initialization.enterAll host nested thread first >>= fun _ =>
        Initialization.enterAll host nested thread rest) := by
  induction first with
  | nil => rfl
  | cons id first inductiveStep =>
    rw [List.cons_append, Initialization.enterAll, Initialization.enterAll, inductiveStep,
      bind_assoc]

/-- An initializer that can be entered keeps the session in order and comes to
a result. -/
theorem host_later (orders : ∀ thread id, Orders (nested thread id)) {code : ι}
    {thread : ThreadId} {id : ClassId}
    (entered : Later session (noted (.entered thread id) session))
    {result : Except Fault (Except String Unit)}
    (ended : (setting.host.run nested code thread id).outcome session = (result, after))
    (finished : result ≠ .error .exhausted) :
    Later session after ∧ ∃ answer, result = .ok answer := by
  have runs : Orders (setting.runProgram nested thread (setting.program code thread id)) :=
    orders_runProgram orders thread _
  dsimp only [host, note] at ended
  rw [Action.outcome_bind, Action.outcome_modify] at ended
  dsimp only at ended
  rw [Action.outcome_bind] at ended
  rcases ran : (setting.runProgram nested thread (setting.program code thread id)).outcome
      (noted (.entered thread id) session) with ⟨fault | answer, middle⟩
  · rw [ran] at ended
    cases ended
    rw [runProgram_answers _ _ _ fault (congrArg Prod.fst ran)] at finished
    exact absurd rfl finished
  · rw [ran] at ended
    cases ended
    have later := runs _ entered.orderly
    rw [ran] at later
    replace later := later (by simp)
    exact ⟨(entered.trans later).trans (later.orderly.noted_of_none rfl), answer, rfl⟩

/-- The initializer of a class that has just been claimed is counted and run. -/
theorem runInitializer_later (orders : ∀ thread id, Orders (nested thread id))
    {thread : ThreadId} {id : ClassId} {loaded : LoadedClass ι} (orderly : Orderly session)
    (found : session.machine.area.class? id = some loaded)
    (unstarted : loaded.progress = .notStarted)
    (ready : ∀ superclass ∈ loaded.superclass, session.machine.area.IsReady thread superclass)
    {result : Except Fault (Except String Unit)}
    (ended : (Initialization.runInitializer setting.host nested thread id
      loaded.initializer).outcome (staged id (.inProgress thread) session) = (result, after))
    (finished : result ≠ .error .exhausted) :
    Later (claimed thread id loaded session) after ∧ ∃ answer, result = .ok answer := by
  unfold Initialization.runInitializer at ended
  cases initializer : loaded.initializer with
  | none =>
    rw [initializer] at ended
    cases ended
    have claims := orderly.claimed found unstarted ready
    have same : claimed thread id loaded session = staged id (.inProgress thread) session := by
      rw [claimed, initializer]
      rfl
    rw [same] at claims ⊢
    exact ⟨.refl claims, _, rfl⟩
  | some code =>
    have counted : (Session.onMachine (Machine.count Metrics.countInitializer)).outcome
        (staged id (.inProgress thread) session) = (.ok ⟨⟩, claimed thread id loaded session) := by
      rw [claimed, initializer]
      rfl
    rw [initializer] at ended
    dsimp only at ended
    rw [Action.outcome_bind, counted] at ended
    exact host_later orders (orderly.enters found unstarted ready) ended finished

/-- A class is initialized after its superclass has been seen to.  If that
succeeds, the class is ready. -/
theorem enter_later (orders : ∀ thread id, Orders (nested thread id)) {thread : ThreadId}
    {id : ClassId} {loaded : LoadedClass ι} (orderly : Orderly session)
    (found : session.machine.area.class? id = some loaded)
    (ready : ∀ superclass ∈ loaded.superclass, session.machine.area.IsReady thread superclass)
    {result : Except Fault Unit}
    (ended : (Initialization.enter setting.host nested thread id).outcome session = (result, after))
    (finished : result ≠ .error .exhausted) :
    Later session after ∧ (result = .ok () → after.machine.area.IsReady thread id) := by
  unfold Initialization.enter at ended
  rw [Action.outcome_bind, Session.outcome_getClass found] at ended
  cases stage : loaded.progress with
  | initialized =>
    simp only [stage, Progress.claim] at ended
    cases ended
    refine ⟨.refl orderly, fun _ => Or.inl ?_⟩
    rw [Area.progress_eq found, stage]
  | failed =>
    simp only [stage, Progress.claim] at ended
    cases ended
    exact ⟨.refl orderly, by simp⟩
  | inProgress owner =>
    by_cases mine : owner = thread
    · simp only [stage, Progress.claim, if_pos mine] at ended
      cases ended
      refine ⟨.refl orderly, fun _ => Or.inr ?_⟩
      rw [Area.progress_eq found, stage, mine]
    · simp only [stage, Progress.claim, if_neg mine] at ended
      cases ended
      exact ⟨.refl orderly, by simp⟩
  | notStarted =>
    have claims :
        (Session.onMachine (Machine.setProgress id (.inProgress thread))).outcome session =
          (.ok ⟨⟩, staged id (.inProgress thread) session) := rfl
    simp only [stage, Progress.claim] at ended
    rw [Action.outcome_bind, claims] at ended
    dsimp only at ended
    rw [Action.outcome_bind] at ended
    rcases ran : (Initialization.runInitializer setting.host nested thread id
      loaded.initializer).outcome (staged id (.inProgress thread) session) with ⟨outcome, middle⟩
    rw [ran] at ended
    have completed : outcome ≠ .error .exhausted := by
      rintro rfl
      cases ended
      exact finished rfl
    rcases runInitializer_later orders orderly found stage ready ran completed with
      ⟨between, answer, rfl⟩
    cases answer with
    | ok value =>
      cases ended
      refine ⟨between.course found stage (.succeed thread), fun _ => Or.inl ?_⟩
      rcases between.still found with ⟨later, foundLater, _⟩
      have stages := Area.progress_setProgress foundLater .initialized id
      rw [if_pos rfl] at stages
      exact stages
    | error reason =>
      cases ended
      exact ⟨between.course found stage (.fail thread), by simp⟩

/-- From the top of the ladder to its foot, each class is ready when the next
one is entered. -/
theorem enterAll_later (orders : ∀ thread id, Orders (nested thread id)) {thread : ThreadId}
    {id : ClassId} {list : List ClassId} (ladder : Ladder session.machine.area id list)
    (orderly : Orderly session) {result : Except Fault Unit}
    (ended : (Initialization.enterAll setting.host nested thread list).outcome session =
      (result, after)) (finished : result ≠ .error .exhausted) :
    Later session after ∧ (result = .ok () → after.machine.area.IsReady thread id) := by
  have single {session after : Session ι (Recorded ι σ)} {id : ClassId} {result : Except Fault Unit}
      (ended : (Initialization.enterAll setting.host nested thread [id]).outcome session =
        (result, after)) :
      (Initialization.enter setting.host nested thread id).outcome session = (result, after) := by
    rw [← ended]
    unfold Initialization.enterAll
    rw [Action.outcome_bind]
    rcases (Initialization.enter setting.host nested thread id).outcome session with
      ⟨fault | value, after⟩
    · rfl
    · rfl
  induction ladder generalizing result after with
  | ready initialized =>
    cases ended
    exact ⟨.refl orderly, fun _ => Or.inl initialized⟩
  | root found top =>
    refine enter_later orders orderly found (fun superclass member => ?_) (single ended) finished
    rw [top] at member
    cases member
  | step inherits ladder inductiveStep =>
    rw [enterAll_append, Action.outcome_bind] at ended
    rcases first : (Initialization.enterAll setting.host nested thread _).outcome session with
      ⟨fault | value, middle⟩
    · rw [first] at ended
      cases ended
      rcases inductiveStep first fun same => finished (by cases same; rfl) with ⟨before, _⟩
      exact ⟨before, by simp⟩
    · rw [first] at ended
      rcases inductiveStep first (by simp) with ⟨before, readyAbove⟩
      rcases inherits with ⟨loaded, found, above⟩
      rcases before.advances _ loaded found with ⟨later, foundLater, type, _⟩
      have ready (superclass : ClassId) (member : superclass ∈ later.superclass) :
          middle.machine.area.IsReady thread superclass := by
        rw [type, above] at member
        cases member
        exact readyAbove rfl
      rcases enter_later orders before.orderly foundLater ready (single ended) finished with
        ⟨last, readyLast⟩
      exact ⟨before.trans last, readyLast⟩

theorem orders_initClassWith (orders : ∀ thread id, Orders (nested thread id))
    (thread : ThreadId) (id : ClassId) :
    Orders (Initialization.initClassWith setting.host nested thread id) := by
  intro session orderly finished
  unfold Initialization.initClassWith at finished ⊢
  rw [Action.outcome_bind, Action.outcome_get] at finished ⊢
  dsimp only at finished ⊢
  rcases pending_spec (session.machine.area.classIds.length + 1) id session.machine with
    ⟨result, ended, ladder⟩
  have looked := Session.outcome_onMachine_of_same ended
  rw [Action.outcome_bind, looked] at finished ⊢
  cases result with
  | error fault => exact .refl orderly
  | ok list => exact (enterAll_later orders (ladder list rfl) orderly rfl finished).1

/-- Every initialization keeps the session in order, however deep initializers
nest. -/
theorem orders_initClass (depth : Nat) (thread : ThreadId) (id : ClassId) :
    Orders (Initialization.initClass setting.host depth thread id) := by
  induction depth generalizing thread id with
  | zero => exact orders_initClassWith (fun _ _ => .exhausted) thread id
  | succ depth inductiveStep => exact orders_initClassWith inductiveStep thread id

/-! ## Whole runs -/

theorem orders_run (depth : Nat) (tasks : List (Task ι)) : Orders (setting.run depth tasks) := by
  induction tasks with
  | nil => exact .pure _
  | cons task rest inductiveStep =>
    refine .bind (orders_observe ?_) fun _ => inductiveStep
    exact orders_perform (orders_initClass depth) task.thread task.operation

/-- A run is cut short by the limits and by nothing else. -/
theorem run_answers (depth : Nat) (tasks : List (Task ι)) : Answers (setting.run depth tasks) := by
  induction tasks with
  | nil => exact .pure _
  | cons task rest inductiveStep =>
    exact .bind (observe_answers task.thread _) fun _ => inductiveStep

theorem progress_start (definitions : List (ClassDefinition ι)) (id : ClassId) :
    (Area.initial definitions).progress id = .notStarted := by
  cases found : (Area.initial definitions).class? id with
  | none => exact Area.progress_unknown found
  | some loaded =>
    rw [Area.progress_eq found]
    rw [Area.class?, Area.loader?_initial] at found
    split at found
    · simp only [Loader.bootstrap, Option.bind_some, List.getElem?_toArray, List.getElem?_map,
        Option.map_eq_some_iff] at found
      rcases found with ⟨primitive, _, rfl⟩
      rfl
    · cases found

/-- In a new runtime no initialization has started. -/
theorem orderly_start (number : Nat) (definitions : List (ClassDefinition ι)) (state : σ) :
    Orderly (start number definitions state) where
  advancing := List.pairwise_singleton _ _
  once := List.nodup_nil
  supported := by simp [start]
  counted := by simp [start]
  agreed := rfl
  entered := by simp [start, entries]
  climbing id _ _ started := absurd (progress_start definitions id) started

/-- In every run that comes to an end, static initialization takes its course:
classes advance from moment to moment, no initializer is entered twice,
superclasses come first, and the counter agrees with the classes.  In the end
no class is being initialized. -/
theorem run_disciplined (setting : Setting ι σ) (depth number : Nat)
    (definitions : List (ClassDefinition ι)) (state : σ) (tasks : List (Task ι))
    {after : Session ι (Recorded ι σ)}
    (ended : (setting.run depth tasks).outcome (start number definitions state) =
      (.ok (), after)) :
    Disciplined after ∧ ∀ id owner, after.machine.area.progress id ≠ .inProgress owner := by
  have orders : Orders (setting.run depth tasks) := orders_run depth tasks
  have later := orders _ (orderly_start number definitions state)
  rw [ended] at later
  replace later := later (by simp)
  refine ⟨later.orderly.toDisciplined, fun id owner running => ?_⟩
  rw [later.running] at running
  have unstarted := progress_start definitions id
  dsimp only [start, Machine.initial] at running
  rw [unstarted] at running
  cases running

/-- Two classes, the initializer of the first of which initializes the second,
its subclass, and fails then. -/
def entangled : Setting Bool Unit where
  registry := Native.builtinRegistry
  lawful := Native.lawful_builtinRegistry
  program inner _ _ :=
    if inner then .finish (.ok ())
    else .operate (.request (.load .bootstrap "Derived")) fun answer =>
      match answer with
      | .ok derived => .operate (.initClass derived) fun _ => .finish (.error "broken")
      | .error _ => .finish (.ok ())
  limit := 4

/-- A root and the two classes. -/
def entangledClasses : List (ClassDefinition Bool) :=
  let base : ClassDefinition Bool := .ordinary "Base"
  let derived : ClassDefinition Bool := .ordinary "Derived"
  [{ ClassDefinition.ordinary ClassName.object with superName := none },
    { base with initializer := some false },
    { derived.extending "Base" with initializer := some true }]

/-- The case of a subclass that is initialized although its superclass has
failed. -/
theorem run_disciplined_entangled :
    let base : ClassId := ⟨.bootstrap, 10⟩
    let derived : ClassId := ⟨.bootstrap, 11⟩
    let tasks : List (Task Bool) :=
      [⟨⟨1⟩, .request (.load .bootstrap "Base")⟩, ⟨⟨1⟩, .initClass base⟩,
        ⟨⟨2⟩, .initClass derived⟩, ⟨⟨2⟩, .request (.mirror derived)⟩]
    ∃ after, (entangled.run 2 tasks).outcome (start 0 entangledClasses ()) = (.ok (), after) ∧
      after.host.entries = [derived, base] ∧ after.machine.area.progress base = .failed ∧
      after.machine.area.progress derived = .initialized ∧ Disciplined after := by
  intro base derived tasks
  have completed :
      ((entangled.run 2 tasks).outcome (start 0 entangledClasses ())).1.toOption = some () := by
    decide +kernel
  have entries :
      ((entangled.run 2 tasks).outcome (start 0 entangledClasses ())).2.host.entries =
        [derived, base] := by
    decide +kernel
  have stages : [base, derived].map
      ((entangled.run 2 tasks).outcome (start 0 entangledClasses ())).2.machine.area.progress =
        [.failed, .initialized] := by
    decide +kernel
  rcases ended : (entangled.run 2 tasks).outcome (start 0 entangledClasses ()) with
    ⟨fault | value, after⟩
  · rw [ended] at completed
    cases completed
  · rw [ended] at entries stages
    simp only [List.map_cons, List.map_nil, List.cons.injEq, and_true] at stages
    exact ⟨after, rfl, entries, stages.1, stages.2,
      (run_disciplined entangled 2 0 entangledClasses () tasks ended).1⟩

end Setting
end ClassRuntime

import ClassRuntime.Proofs.Execution.Development
import ClassRuntime.Proofs.Execution.Walk

namespace ClassRuntime

/-!
# Classes that cannot be initialized any more

An initialization enters the topmost of the classes that have not been initialized first.
If this one has failed, nothing further down is entered, and the initialization comes to
the same end whenever it is tried again.  The class for which it is tried need not have
failed itself, and will never be started.

This is the state in which the failure of an initializer leaves all classes below.  As
long as initializers leave the runtime alone, no other initialization can bring a class
out of it: one that came across any class on the way would meet the same failed class
first.  Other threads may be in the middle of initializations all the while.
-/

namespace Area

variable {ι : Type} {area before after : Area ι} {id other culprit : ClassId}
  {chain first rest : List ClassId}

/-! ## What awaits initialization -/

/-- Above one of the classes that await initialization, the same classes await it. -/
theorem Lineage.awaiting_of_mem (lineage : area.Lineage id chain)
    (member : other ∈ area.awaiting chain) :
    ∃ own below, area.Lineage other own ∧ other ∈ area.awaiting own ∧
      area.awaiting chain = area.awaiting own ++ below := by
  induction lineage with
  | @root id loaded found top =>
    cases List.mem_singleton.1 (of_mem_awaiting member).1
    exact ⟨[other], [], .root found top, member, (List.append_nil _).symm⟩
  | @extend id superclass above inherits lineage inductiveStep =>
    have whole := member
    rw [awaiting_cons] at member
    split at member
    · cases member
    next waits =>
      rcases List.mem_append.1 member with higher | here
      · rcases inductiveStep higher with ⟨own, below, lineageOwn, memberOwn, split⟩
        refine ⟨own, below ++ [id], lineageOwn, memberOwn, ?_⟩
        rw [awaiting_cons, if_neg waits, split, List.append_assoc]
      · cases List.mem_singleton.1 here
        exact ⟨other :: above, [], .extend inherits lineage, whole, (List.append_nil _).symm⟩

/-- If the class itself awaits initialization, it is the last to do so. -/
theorem Lineage.awaiting_eq_concat (lineage : area.Lineage id chain)
    (waits : area.progress id ≠ .initialized) : ∃ above, area.awaiting chain = above ++ [id] := by
  have waits : ¬ (area.progress id).isInitialized = true := mt decide_eq_true_iff.1 waits
  cases lineage with
  | root => exact ⟨area.awaiting [], by rw [awaiting_cons, if_neg waits]⟩
  | @extend _ _ above => exact ⟨area.awaiting above, by rw [awaiting_cons, if_neg waits]⟩

/-- Of the classes that await initialization, the first ones are initialized, and the others
are not.  Then the others still await it. -/
theorem awaiting_of_initialized (split : before.awaiting chain = first ++ rest)
    (done : ∀ id ∈ first, after.progress id = .initialized)
    (waits : ∀ id ∈ rest, after.progress id ≠ .initialized)
    (kept : ∀ id, before.progress id = .initialized → after.progress id = .initialized) :
    after.awaiting chain = rest := by
  have initialized {area : Area ι} {id : ClassId} :
      (area.progress id).isInitialized = true ↔ area.progress id = .initialized :=
    decide_eq_true_iff
  induction chain generalizing rest with
  | nil =>
    rcases List.append_eq_nil_iff.1 split.symm with ⟨_, rfl⟩
    rfl
  | cons id chain inductiveStep =>
    rw [awaiting_cons] at split ⊢
    split at split
    next ready =>
      rcases List.append_eq_nil_iff.1 split.symm with ⟨_, rfl⟩
      rw [if_pos (initialized.2 (kept id (initialized.1 ready)))]
    next =>
      rcases List.eq_nil_or_concat rest with rfl | ⟨higher, last, rfl⟩
      · rw [List.append_nil] at split
        rw [if_pos (initialized.2 (done id (split ▸ List.mem_concat_self)))]
      · rw [List.concat_eq_append] at waits ⊢
        rw [List.concat_eq_append, ← List.append_assoc] at split
        rcases List.append_inj' split rfl with ⟨above, same⟩
        cases same
        have last := waits id List.mem_concat_self
        rw [if_neg fun ready => last (initialized.1 ready),
          inductiveStep above fun other member => waits other (List.mem_append_left _ member)]

/-! ## Doomed classes -/

/-- The class cannot be initialized any more.  The first one that an initialization enters
for it, the culprit, has failed.  The class itself is this one or has not been started. -/
structure Doomed (area : Area ι) (id culprit : ClassId) : Prop where
  barred : ∃ chain, area.Lineage id chain ∧ (area.awaiting chain).head? = some culprit
  failed : area.progress culprit = .failed
  own : id = culprit ∨ area.progress id = .notStarted

/-- The class stays doomed if the classes on the way to the culprit stay as they are, and
what has been initialized remains so. -/
theorem Doomed.later (doomed : before.Doomed id culprit)
    (types : ∀ {id type}, before.type? id = some type → after.type? id = some type)
    (lineage : before.Lineage id chain)
    (same : ∀ id ∈ before.awaiting chain, after.progress id = before.progress id)
    (kept : ∀ id, before.progress id = .initialized → after.progress id = .initialized) :
    after.Doomed id culprit := by
  rcases doomed.barred with ⟨_, known, barred⟩
  cases known.unique lineage
  have onward : after.awaiting chain = before.awaiting chain := by
    refine awaiting_of_initialized (List.nil_append _).symm (by simp) (fun other member => ?_) kept
    rw [same other member]
    exact (of_mem_awaiting member).2
  have culpritWaits := List.mem_of_head? barred
  refine ⟨⟨chain, lineage.mono types, onward ▸ barred⟩, ?_,
    doomed.own.imp_right fun unstarted => ?_⟩
  · rw [same culprit culpritWaits, doomed.failed]
  · rcases lineage.awaiting_eq_concat (by simp [unstarted]) with ⟨above, whole⟩
    have self : id ∈ before.awaiting chain := whole ▸ List.mem_concat_self
    rw [same id self, unstarted]

/-- A doomed class is there. -/
theorem Doomed.exists_class (doomed : area.Doomed id culprit) :
    ∃ loaded, area.class? id = some loaded := by
  rcases doomed.barred with ⟨chain, lineage, _⟩
  cases lineage with
  | root found => exact ⟨_, found⟩
  | extend inherits =>
    rcases inherits with ⟨loaded, found, _⟩
    exact ⟨loaded, found⟩

theorem Doomed.quiet (doomed : before.Doomed id culprit) (quiet : before.Quiet after) :
    after.Doomed id culprit := by
  rcases doomed.barred with ⟨chain, lineage, _⟩
  exact doomed.later quiet.advances.type lineage (fun other _ => quiet.progress other)
    fun other initialized => (quiet.progress other).trans initialized

/-! ## Classes that come to an end -/

/-- At most the classes in the list have changed.  Each of those that have was not started
and has come to an end. -/
structure Finishes (list : List ClassId) (before after : Area ι) : Prop where
  others : ∀ id ∉ list, after.class? id = before.class? id
  ends : ∀ id, after.progress id = before.progress id ∨ before.progress id = .notStarted ∧
    (after.progress id = .initialized ∨ after.progress id = .failed)

namespace Finishes

variable {middle : Area ι} {list : List ClassId}

theorem refl (list : List ClassId) (area : Area ι) : area.Finishes list area where
  others _ _ := rfl
  ends _ := Or.inl rfl

theorem trans (former : before.Finishes [id] middle) (latter : middle.Finishes list after) :
    before.Finishes (id :: list) after where
  others other outside := by
    have apart : other ∉ [id] := fun same => outside (List.mem_cons.2 (Or.inl
      (List.mem_singleton.1 same)))
    rw [latter.others other fun member => outside (List.mem_cons_of_mem id member),
      former.others other apart]
  ends other := by
    rcases former.ends other with same | ⟨unstarted, ended⟩
    · rw [← same]
      exact latter.ends other
    · right
      rcases latter.ends other with same | ⟨again, _⟩
      · rw [same]
        exact ⟨unstarted, ended⟩
      · rcases ended with initialized | failed
        · cases again.symm.trans initialized
        · cases again.symm.trans failed

theorem progress_of_not_mem (finishes : before.Finishes list after) (outside : id ∉ list) :
    after.progress id = before.progress id := by
  rw [progress, finishes.others id outside, progress]

theorem initialized (finishes : before.Finishes list after)
    (initialized : before.progress id = .initialized) : after.progress id = .initialized := by
  rcases finishes.ends id with same | ⟨unstarted, _⟩
  · exact same.trans initialized
  · cases unstarted.symm.trans initialized

/-- A class that a thread need not wait for stays one. -/
theorem isReady (finishes : before.Finishes list after) {thread : ThreadId}
    (ready : before.IsReady thread id) : after.IsReady thread id := by
  rcases ready with initialized | own
  · exact Or.inl (finishes.initialized initialized)
  · rcases finishes.ends id with same | ⟨unstarted, _⟩
    · exact Or.inr (same.trans own)
    · cases unstarted.symm.trans own

/-- Nothing is under way that has not been before. -/
theorem idle (finishes : before.Finishes list after) {owner : ThreadId}
    (idle : before.progress id ≠ .inProgress owner) : after.progress id ≠ .inProgress owner := by
  rcases finishes.ends id with same | ⟨_, initialized | failed⟩
  · rwa [same]
  · rw [initialized]
    simp
  · rw [failed]
    simp

end Finishes
end Area

namespace Setting

open Recorded

variable {ι σ : Type} {setting : Setting ι σ} {nested : InitClass ι (Recorded ι σ)}
  {thread : ThreadId} {id culprit : ClassId} {session after : Session ι (Recorded ι σ)}
  {list chain : List ClassId} {result : Except Fault Unit}

/-! ## Entering classes -/

/-- What comes of a class that is entered, if its initializer leaves the runtime alone. -/
inductive Entry (thread : ThreadId) (id : ClassId) (session : Session ι (Recorded ι σ)) :
    Except Fault Unit → Session ι (Recorded ι σ) → Prop
  /-- There is nothing to do. -/
  | ready (ready : session.machine.area.IsReady thread id) :
      Entry thread id session (.ok ()) session
  /-- The class cannot be entered. -/
  | refused (fault : Fault) : Entry thread id session (.error fault) session
  /-- The class is started, and its initializer comes to a result. -/
  | concluded {type : TypeDescriptor} {verdict : Except String Unit}
      {after : Session ι (Recorded ι σ)} (typed : session.machine.area.type? id = some type)
      (finishes : session.machine.area.Finishes [id] after.machine.area)
      (settled : after.machine.area.progress id = .concluded verdict) :
      Entry thread id session
        (verdict.mapError fun reason => .error (.initializationFailed type.name reason)) after

/-- A class that is started is the only one that changes. -/
theorem finishes_of_turned {ran : List ClassId} {verdict : Except String Unit}
    (turned : Turned ran (fun other before => if id = other then .concluded verdict else before)
      session after) (unstarted : session.machine.area.progress id = .notStarted)
    (settled : after.machine.area.progress id = .concluded verdict) :
    session.machine.area.Finishes [id] after.machine.area := by
  have others (other : ClassId) (outside : other ∉ [id]) :
      after.machine.area.class? other = session.machine.area.class? other :=
    turned.class?_of_kept fun _ => if_neg fun same => outside (List.mem_singleton.2 same.symm)
  refine ⟨others, fun other => ?_⟩
  by_cases here : other ∈ [id]
  · cases List.mem_singleton.1 here
    rw [settled]
    cases verdict with
    | ok => exact Or.inr ⟨unstarted, Or.inl rfl⟩
    | error => exact Or.inr ⟨unstarted, Or.inr rfl⟩
  · left
    rw [Area.progress, others other here, Area.progress]

theorem entry_enter (aloof : ∀ code id, (setting.program code thread id).Aloof)
    (ended : (Initialization.enter setting.host nested thread id).outcome session =
      (result, after)) : Entry thread id session result after := by
  rcases enter_cases setting nested thread id session with
    ⟨ready, entered⟩ | ⟨fault, entered⟩ | ⟨loaded, found, unstarted⟩
  · cases entered.symm.trans ended
    exact .ready ready
  · cases entered.symm.trans ended
    exact .refused fault
  · rcases exists_verdict aloof loaded.initializer session.host.state with
      ⟨verdict, last, settles⟩
    rcases outcome_enter nested found unstarted settles with ⟨later, entered, _, turned⟩
    cases entered.symm.trans ended
    have settled : after.machine.area.progress id = .concluded verdict :=
      (turned.progress_eq found).trans (if_pos rfl)
    have before := (Area.progress_eq found).trans unstarted
    exact .concluded (Area.type?_of_class? found) (finishes_of_turned turned before settled) settled

theorem Entry.finishes (entry : Entry thread id session result after) :
    session.machine.area.Finishes [id] after.machine.area := by
  cases entry with
  | ready | refused => exact .refl [id] _
  | concluded _ finishes => exact finishes

/-- The thread need not wait for a class that has been entered. -/
theorem Entry.isReady (entry : Entry thread id session (.ok ()) after) :
    after.machine.area.IsReady thread id := by
  generalize same : Except.ok () = outcome at entry
  cases entry with
  | ready ready => exact ready
  | refused => cases same
  | @concluded type verdict after typed finishes settled =>
    cases verdict with
    | ok => exact Or.inl settled
    | error => cases same

/-- If a class fails when one is entered, it is the entered one, and says so. -/
theorem Entry.fails (entry : Entry thread id session result after)
    (fresh : session.machine.area.progress culprit ≠ .failed)
    (failed : after.machine.area.progress culprit = .failed) :
    culprit = id ∧ ∃ type reason, session.machine.area.type? id = some type ∧
      result = .error (.error (.initializationFailed type.name reason)) := by
  have here : culprit ∈ [id] := by
    by_contra elsewhere
    exact fresh ((entry.finishes.progress_of_not_mem elsewhere).symm.trans failed)
  cases List.mem_singleton.1 here
  refine ⟨rfl, ?_⟩
  cases entry with
  | ready | refused => exact absurd failed fresh
  | @concluded type verdict after typed finishes settled =>
    cases verdict with
    | ok => cases settled.symm.trans failed
    | error reason => exact ⟨type, reason, typed, rfl⟩

/-! ## Entering one class after another -/

/-- An initialization goes on after each class that it enters, until one of them fails it. -/
theorem outcome_enterAll_split (first : ClassId) (rest : List ClassId)
    (ended : (Initialization.enterAll setting.host nested thread (first :: rest)).outcome session =
      (result, after)) :
    (∃ fault, (Initialization.enter setting.host nested thread first).outcome session =
      (.error fault, after) ∧ result = .error fault) ∨
    ∃ middle, (Initialization.enter setting.host nested thread first).outcome session =
      (.ok (), middle) ∧
      (Initialization.enterAll setting.host nested thread rest).outcome middle =
        (result, after) := by
  rw [outcome_enterAll_cons] at ended
  rcases entered : (Initialization.enter setting.host nested thread first).outcome session with
    ⟨fault | value, middle⟩
  · rw [entered] at ended
    cases ended
    exact Or.inl ⟨fault, rfl, rfl⟩
  · rw [entered] at ended
    exact Or.inr ⟨middle, rfl, ended⟩

theorem finishes_enterAll (aloof : ∀ code id, (setting.program code thread id).Aloof)
    (ended : (Initialization.enterAll setting.host nested thread list).outcome session =
      (result, after)) : session.machine.area.Finishes list after.machine.area := by
  induction list generalizing session with
  | nil =>
    cases ended
    exact .refl [] _
  | cons first rest inductiveStep =>
    rcases outcome_enterAll_split first rest ended with
      ⟨fault, entered, rfl⟩ | ⟨middle, entered, onward⟩
    · exact (entry_enter aloof entered).finishes.trans (.refl rest _)
    · exact (entry_enter aloof entered).finishes.trans (inductiveStep onward)

/-- If a class fails in the course of this, it is the last one to be entered.  The thread need
not wait for the classes before it, and those after it stay as they are. -/
theorem fails_enterAll (aloof : ∀ code id, (setting.program code thread id).Aloof)
    (distinct : list.Nodup)
    (ended : (Initialization.enterAll setting.host nested thread list).outcome session =
      (result, after)) (fresh : session.machine.area.progress culprit ≠ .failed)
    (failed : after.machine.area.progress culprit = .failed) :
    ∃ first rest type reason, list = first ++ culprit :: rest ∧
      session.machine.area.type? culprit = some type ∧
      result = .error (.error (.initializationFailed type.name reason)) ∧
      (∀ other ∈ first, after.machine.area.IsReady thread other) ∧
      ∀ other ∈ rest, after.machine.area.progress other = session.machine.area.progress other := by
  induction list generalizing session with
  | nil =>
    cases ended
    exact absurd failed fresh
  | cons head rest inductiveStep =>
    rcases List.nodup_cons.1 distinct with ⟨apart, distinctRest⟩
    have outside {other : ClassId} (member : other ∈ rest) : other ∉ [head] := fun same =>
      apart (List.mem_singleton.1 same ▸ member)
    rcases outcome_enterAll_split head rest ended with
      ⟨fault, entered, stops⟩ | ⟨middle, entered, onward⟩
    · have entry := entry_enter aloof entered
      rcases entry.fails fresh failed with ⟨rfl, type, reason, typed, same⟩
      refine ⟨[], rest, type, reason, rfl, typed, stops.trans same, by simp,
        fun other member => ?_⟩
      exact entry.finishes.progress_of_not_mem (outside member)
    · have entry := entry_enter aloof entered
      have before := entry.finishes
      have later := finishes_enterAll aloof onward
      have passed := entry.isReady
      have freshMiddle : middle.machine.area.progress culprit ≠ .failed := by
        by_cases here : culprit ∈ [head]
        · rw [List.mem_singleton.1 here]
          rcases passed with initialized | own
          · simp [initialized]
          · simp [own]
        · rwa [before.progress_of_not_mem here]
      rcases inductiveStep distinctRest onward freshMiddle with
        ⟨first, last, type, reason, rfl, typed, stops, done, left⟩
      refine ⟨head :: first, last, type, reason, rfl, ?_, stops, ?_, fun other member => ?_⟩
      · rwa [Area.type?, before.others culprit (outside (by simp))] at typed
      · intro other member
        rcases List.mem_cons.1 member with rfl | earlier
        · exact later.isReady passed
        · exact done other earlier
      · rw [left other member, before.progress_of_not_mem (outside (by simp [member]))]

/-! ## Initializations -/

theorem outcome_initClass_of_unknown (depth : Nat)
    (unknown : session.machine.area.class? id = none) :
    ((Initialization.initClass setting.host depth thread id).outcome session).2 = session := by
  cases read : session.machine.area.loadedClass id with
  | ok loaded => cases unknown.symm.trans (Area.class?_of_loadedClass read)
  | error fault =>
    have looked (bound : Nat) : (Initialization.pending (bound + 1) id).outcome session.machine =
        (.error fault, session.machine) := by
      rw [Initialization.pending, Action.outcome_bind, Machine.outcome_getClass, read]
    rw [Initialization.initClass_eq, Initialization.initClassWith, Action.outcome_bind,
      Action.outcome_get]
    dsimp only
    rw [Action.outcome_bind, Session.outcome_onMachine_of_same (looked _)]

/-- An initialization enters the classes that await it, if the class exists. -/
theorem initClass_cases {depth : Nat} (reachable : session.machine.Reachable)
    (ended : (Initialization.initClass setting.host depth thread id).outcome session =
      (result, after)) :
    after = session ∨ ∃ chain, session.machine.area.Lineage id chain ∧
      (Initialization.enterAll setting.host (Initialization.inner setting.host depth) thread
        (session.machine.area.awaiting chain)).outcome session = (result, after) := by
  cases known : session.machine.area.class? id with
  | none =>
    have same : ((Initialization.initClass setting.host depth thread id).outcome session).2 =
        session := outcome_initClass_of_unknown depth known
    rw [ended] at same
    exact Or.inl same
  | some loaded =>
    rcases reachable.lineal id (Option.isSome_iff_exists.2 ⟨loaded, known⟩) with ⟨chain, lineage⟩
    rw [Initialization.initClass_eq, Initialization.outcome_initClassWith _ _ _ lineage] at ended
    exact Or.inr ⟨chain, lineage, ended⟩

/-- A thread that is not initializing anything is not doing so afterwards either. -/
theorem idle_initClass {depth : Nat}
    (aloof : ∀ code thread id, (setting.program code thread id).Aloof)
    (reachable : session.machine.Reachable) {owner : ThreadId}
    (idle : ∀ other, session.machine.area.progress other ≠ .inProgress owner)
    (ended : (Initialization.initClass setting.host depth thread id).outcome session =
      (result, after)) (other : ClassId) :
    after.machine.area.progress other ≠ .inProgress owner := by
  rcases initClass_cases reachable ended with rfl | ⟨chain, _, entered⟩
  · exact idle other
  · exact (finishes_enterAll (fun code id => aloof code thread id) entered).idle (idle other)

/-- An initialization does nothing if the first class that it enters has failed. -/
theorem outcome_initClass_of_barred (depth : Nat)
    (lineage : session.machine.area.Lineage id chain)
    (barred : (session.machine.area.awaiting chain).head? = some culprit)
    (failed : session.machine.area.progress culprit = .failed) {type : TypeDescriptor}
    (typed : session.machine.area.type? culprit = some type) :
    (Initialization.initClass setting.host depth thread id).outcome session =
      (.error (.error (.erroneous type.name)), session) := by
  rcases Area.class?_of_type? typed with ⟨loaded, found, rfl⟩
  rcases List.head?_eq_some_iff.1 barred with ⟨rest, list⟩
  have stage := (Area.progress_eq found).symm.trans failed
  rw [Initialization.initClass_eq, Initialization.outcome_initClassWith _ _ _ lineage, list,
    outcome_enterAll_cons, outcome_enter_of_failed found stage]

/-- If a class fails in the course of an initialization, the initialization fails with it.
The class that was to be initialized is doomed from then on, unless the thread was in the
middle of initializing a class above it, for which others will have to wait. -/
theorem dooms_initClass (depth : Nat)
    (aloof : ∀ code thread id, (setting.program code thread id).Aloof)
    (reachable : session.machine.Reachable)
    (unstarted : session.machine.area.progress id = .notStarted)
    (ended : (Initialization.initClass setting.host depth thread id).outcome session =
      (result, after)) (fresh : session.machine.area.progress culprit ≠ .failed)
    (failed : after.machine.area.progress culprit = .failed) :
    ∃ type reason, after.machine.area.type? culprit = some type ∧
      result = .error (.error (.initializationFailed type.name reason)) ∧
      ((∀ other, session.machine.area.progress other ≠ .inProgress thread) →
        after.machine.area.Doomed id culprit) := by
  have becomes := ((develops_initClass depth thread id).related ended).machine
  rcases initClass_cases reachable ended with rfl | ⟨chain, lineage, entered⟩
  · exact absurd failed fresh
  · have finishes := finishes_enterAll (fun code id => aloof code thread id) entered
    rcases fails_enterAll (fun code id => aloof code thread id) lineage.nodup_awaiting
        entered fresh failed with ⟨first, rest, type, reason, split, typed, stops, ready, left⟩
    refine ⟨type, reason, becomes.retains.type typed, stops, fun idle =>
      ⟨⟨chain, lineage.mono becomes.retains.type, ?_⟩, failed, ?_⟩⟩
    · have done (other : ClassId) (member : other ∈ first) :
          after.machine.area.progress other = .initialized :=
        (ready other member).resolve_right (finishes.idle (idle other))
      rw [Area.awaiting_of_initialized split done (fun other member => ?_) fun other =>
        finishes.initialized]
      · rfl
      · rcases List.mem_cons.1 member with rfl | below
        · simp [failed]
        · rw [left other below]
          exact (Area.of_mem_awaiting (split ▸ List.mem_append_right _ member)).2
    · rcases lineage.awaiting_eq_concat (by simp [unstarted]) with ⟨above, whole⟩
      have last : (culprit :: rest).getLast? = some id := by
        rw [← List.getLast?_append_cons first, ← split, whole, List.getLast?_concat]
      rcases List.mem_cons.1 (List.mem_of_getLast? last) with same | below
      · exact Or.inl same
      · exact Or.inr ((left id below).trans unstarted)

end Setting

/-! ## Runs -/

namespace Session

variable {ι σ : Type} {before after : Session ι (Recorded ι σ)}

/-- The machine of the second session comes about from that of the first, and classes that
have been doomed still are. -/
structure Abides (before after : Session ι (Recorded ι σ)) : Prop where
  becomes : before.machine.Becomes after.machine
  doomed : before.machine.Reachable → ∀ {id culprit}, before.machine.area.Doomed id culprit →
    after.machine.area.Doomed id culprit

theorem Abides.of_quiet (becomes : before.machine.Becomes after.machine)
    (quiet : before.machine.Quiet after.machine) : before.Abides after where
  becomes := becomes
  doomed _ _ _ doomed := doomed.quiet quiet.area

instance : IsPreorder (Session ι (Recorded ι σ)) Abides where
  refl _ := .of_quiet (refl_of Machine.Becomes _) ⟨refl_of Area.Quiet _, rfl⟩
  trans _ _ _ first second :=
    ⟨trans_of Machine.Becomes first.becomes second.becomes, fun reachable _ _ doomed =>
      second.doomed (reachable.later first.becomes) (first.doomed reachable doomed)⟩

theorem spans_abides : Spans (Abides : Session ι (Recorded ι σ) → Session ι _ → Prop) where
  machine _ _ becomes quiet := .of_quiet becomes quiet
  note _ _ := .of_quiet (refl_of Machine.Becomes _) ⟨refl_of Area.Quiet _, rfl⟩
  consult _ _ := .of_quiet (refl_of Machine.Becomes _) ⟨refl_of Area.Quiet _, rfl⟩

end Session

namespace Setting

open Recorded

variable {ι σ : Type} {setting : Setting ι σ}

/-- An initialization that would concern a class on the way from a doomed class to its
culprit fails because of the same culprit. -/
theorem abides_initClass (aloof : ∀ code thread id, (setting.program code thread id).Aloof)
    (depth : Nat) (thread : ThreadId) (id : ClassId) :
    (Initialization.initClass setting.host depth thread id).Within Session.Abides := by
  intro session
  rcases ended : (Initialization.initClass setting.host depth thread id).outcome session with
    ⟨result, after⟩
  have becomes := ((develops_initClass depth thread id).related ended).machine
  refine ⟨becomes, fun reachable victim culprit doomed => ?_⟩
  rcases initClass_cases reachable ended with rfl | ⟨chain, lineage, entered⟩
  · exact doomed
  rcases doomed.barred with ⟨above, lineageVictim, barred⟩
  by_cases meets : ∃ other, other ∈ session.machine.area.awaiting above ∧
    other ∈ session.machine.area.awaiting chain
  · rcases meets with ⟨other, higher, member⟩
    rcases lineageVictim.awaiting_of_mem higher with ⟨own, below, lineageOwn, memberOwn, split⟩
    rcases lineage.awaiting_of_mem member with ⟨same, onward, lineageSame, _, splitSame⟩
    cases lineageSame.unique lineageOwn
    have nonempty := List.ne_nil_of_mem memberOwn
    have first : (session.machine.area.awaiting chain).head? = some culprit := by
      rw [splitSame, List.head?_append_of_ne_nil _ nonempty,
        ← List.head?_append_of_ne_nil _ nonempty, ← split]
      exact barred
    have started : session.machine.area.progress culprit ≠ .notStarted := by
      rw [doomed.failed]
      simp
    rcases Area.class?_of_started started with ⟨spoilt, found⟩
    rw [outcome_initClass_of_barred depth lineage first doomed.failed
      (Area.type?_of_class? found)] at ended
    cases ended
    exact doomed
  · have apart {other : ClassId} (member : other ∈ session.machine.area.awaiting above) :
        other ∉ session.machine.area.awaiting chain := fun also => meets ⟨other, member, also⟩
    have finishes := finishes_enterAll (fun code id => aloof code thread id) entered
    exact doomed.later becomes.retains.type lineageVictim
      (fun other member => finishes.progress_of_not_mem (apart member))
      fun other => finishes.initialized

theorem abides_run (aloof : ∀ code thread id, (setting.program code thread id).Aloof)
    (depth : Nat) (tasks : List (Task ι)) : (setting.run depth tasks).Within Session.Abides :=
  Session.spans_abides.run (abides_initClass aloof depth) tasks

end Setting
end ClassRuntime

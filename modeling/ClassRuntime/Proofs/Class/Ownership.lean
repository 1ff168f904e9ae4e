import ClassRuntime.Class.Progress
import Mathlib.Data.List.Basic
import Mathlib.Data.List.Infix

namespace ClassRuntime
namespace Ownership

/-!
# One owner

The progress of a class is shared by all threads.  They claim the class, they wait for the
end of its initialization, and the thread that is to run the initializer says how it ended.
Nothing but the progress itself decides on the answers, and a thread may say what it likes
at any time.  What is assumed is that the end is told once, by the thread that was told to
run the initializer.

A history is what happened so far, oldest first.  It determines the progress: whether
anything has been claimed, who was told to go on, and what has been said of the end.  This
is kept by every event, and each answer is then read off the history that comes before it.
-/

/-- How an initialization has ended. -/
inductive Verdict where
  | succeeded
  | failed
  deriving DecidableEq

/-- The progress that is made. -/
def Verdict.progress : Verdict → Progress
  | .succeeded => .initialized
  | .failed => .failed

/-- The answer to claims that come later. -/
def Verdict.claim : Verdict → Claim
  | .succeeded => .initialized
  | .failed => .failed

/-- What can happen to the progress of a class. -/
inductive Event where
  /-- A thread claims the class and is given an answer. -/
  | claimed (thread : ThreadId) (answer : Claim)
  /-- A thread asks for the end of the initialization. -/
  | asked (thread : ThreadId)
  /-- A thread that has asked is told what progress has been made. -/
  | told (thread : ThreadId) (found : Progress)
  /-- A thread says how the initialization has ended. -/
  | ended (thread : ThreadId) (verdict : Verdict)
  deriving DecidableEq

/-- The progress of a class, with the threads that have asked for its end and have not yet
been told. -/
structure State where
  progress : Progress
  waiting : List ThreadId

/-- Nothing has happened. -/
def State.fresh : State := ⟨.notStarted, []⟩

/-- One event.  A thread is told something only when there is something to be found. -/
inductive Step : State → Event → State → Prop
  | claim (state : State) (thread : ThreadId) :
      Step state (.claimed thread (state.progress.claim thread).1)
        { state with progress := (state.progress.claim thread).2 }
  | ask (state : State) (thread : ThreadId) :
      Step state (.asked thread) { state with waiting := thread :: state.waiting }
  | tell {state : State} {thread : ThreadId} {found : Progress}
      (waiting : thread ∈ state.waiting) (settled : state.progress.wait? = some found) :
      Step state (.told thread found) { state with waiting := state.waiting.erase thread }
  | finish (state : State) (thread : ThreadId) (verdict : Verdict) :
      Step state (.ended thread verdict) { state with progress := verdict.progress }

/-- Events one after another. -/
inductive Runs : State → List Event → State → Prop
  | nil (state : State) : Runs state [] state
  | cons {before middle after : State} {event : Event} {events : List Event} :
      Step before event middle → Runs middle events after → Runs before (event :: events) after

/-- The thread may say how the initialization has ended: it was told to run the initializer,
and the end has not been told before. -/
def MayEnd (history : List Event) (thread : ThreadId) : Prop :=
  .claimed thread .execute ∈ history ∧ ∀ other verdict, .ended other verdict ∉ history

/-- The end is told once at most, by the thread that was told to run the initializer. -/
def Disciplined (history : List Event) : Prop :=
  ∀ before thread verdict after, history = before ++ .ended thread verdict :: after →
    MayEnd before thread

/-- What a history says of the progress. -/
structure Recounts (history : List Event) (progress : Progress) : Prop where
  unclaimed : (∀ thread answer, .claimed thread answer ∉ history) ↔ progress = .notStarted
  running : ∀ owner, MayEnd history owner ↔ progress = .inProgress owner
  ended : ∀ verdict, (∃ thread, .ended thread verdict ∈ history) ↔ progress = verdict.progress

variable {state before middle after : State} {history events : List Event} {event : Event}
  {progress : Progress} {thread : ThreadId}

theorem Verdict.progress_ne_notStarted (verdict : Verdict) : verdict.progress ≠ .notStarted := by
  cases verdict <;> simp [Verdict.progress]

theorem Verdict.progress_ne_inProgress (verdict : Verdict) (owner : ThreadId) :
    verdict.progress ≠ .inProgress owner := by
  cases verdict <;> simp [Verdict.progress]

theorem Verdict.progress_injective {verdict other : Verdict}
    (same : verdict.progress = other.progress) : verdict = other := by
  cases verdict <;> cases other <;> simp_all [Verdict.progress]

theorem Verdict.claim_progress (verdict : Verdict) (thread : ThreadId) :
    (verdict.progress.claim thread).1 = verdict.claim := by
  cases verdict <;> rfl

/-- A claim that is not the first changes nothing. -/
theorem claim_of_started (started : progress ≠ .notStarted) (thread : ThreadId) :
    (progress.claim thread).1 ≠ .execute ∧ (progress.claim thread).2 = progress := by
  cases progress with
  | notStarted => exact absurd rfl started
  | inProgress owner =>
    refine ⟨?_, rfl⟩
    simp only [Progress.claim]
    split <;> simp
  | initialized => simp [Progress.claim]
  | failed => simp [Progress.claim]

theorem wait?_eq_some {found : Progress} (settled : progress.wait? = some found) :
    found = progress ∧ ∀ owner, progress ≠ .inProgress owner := by
  cases progress with
  | inProgress owner => simp [Progress.wait?] at settled
  | notStarted | initialized | failed =>
    simp only [Progress.wait?, Option.some.injEq] at settled
    subst settled
    simp

/-! ## The history determines the progress -/

namespace Recounts

theorem fresh : Recounts [] State.fresh.progress where
  unclaimed := by simp [State.fresh]
  running owner := by simp [MayEnd, State.fresh]
  ended verdict := by cases verdict <;> simp [State.fresh, Verdict.progress]

/-- The first claim makes its thread the owner. -/
theorem claim (recounts : Recounts history .notStarted) (thread : ThreadId) :
    Recounts (history ++ [.claimed thread .execute]) (.inProgress thread) := by
  have unclaimed := recounts.unclaimed.2 rfl
  have unended (other : ThreadId) (verdict : Verdict) : .ended other verdict ∉ history :=
    fun member => verdict.progress_ne_notStarted ((recounts.ended verdict).1 ⟨other, member⟩).symm
  constructor
  · simp only [reduceCtorEq, iff_false, not_forall, not_not]
    exact ⟨thread, .execute, List.mem_append_right history (List.mem_singleton_self _)⟩
  · intro owner
    simp [MayEnd, unclaimed, unended, eq_comm]
  · intro verdict
    have other := (verdict.progress_ne_inProgress thread).symm
    simp [unended, other]

/-- The end is what the owner says. -/
theorem finish (mayEnd : MayEnd history thread) (verdict : Verdict) :
    Recounts (history ++ [.ended thread verdict]) verdict.progress := by
  obtain ⟨claimed, unended⟩ := mayEnd
  constructor
  · have begun := verdict.progress_ne_notStarted
    simp only [begun, iff_false, not_forall, not_not]
    exact ⟨thread, .execute, List.mem_append_left _ claimed⟩
  · intro owner
    have done := verdict.progress_ne_inProgress owner
    simp only [done, iff_false]
    rintro ⟨_, none⟩
    exact none thread verdict (List.mem_append_right history (List.mem_singleton_self _))
  · intro other
    simp only [List.mem_append, unended, false_or, List.mem_singleton, Event.ended.injEq]
    constructor
    · rintro ⟨_, _, rfl⟩
      rfl
    · intro same
      exact ⟨thread, rfl, (Verdict.progress_injective same).symm⟩

/-- Other events leave things as they are.  A claim among them is not the first. -/
theorem keep (recounts : Recounts history progress)
    (notFirst : ∀ thread answer, event = .claimed thread answer →
      answer ≠ .execute ∧ progress ≠ .notStarted)
    (notEnd : ∀ thread verdict, event ≠ .ended thread verdict) :
    Recounts (history ++ [event]) progress := by
  have ends (thread : ThreadId) (verdict : Verdict) :
      .ended thread verdict ∈ history ++ [event] ↔ .ended thread verdict ∈ history := by
    simp [(notEnd thread verdict).symm]
  have executes (thread : ThreadId) :
      .claimed thread .execute ∈ history ++ [event] ↔ .claimed thread .execute ∈ history := by
    have other : Event.claimed thread .execute ≠ event :=
      fun same => (notFirst thread .execute same.symm).1 rfl
    simp [other]
  constructor
  · rw [← recounts.unclaimed]
    constructor
    · exact fun none thread answer member => none thread answer (List.mem_append_left _ member)
    · intro none thread answer member
      rcases List.mem_append.1 member with old | new
      · exact none thread answer old
      · have same := (List.mem_singleton.1 new).symm
        exact (notFirst thread answer same).2 (recounts.unclaimed.1 none)
  · intro owner
    rw [← recounts.running owner, MayEnd, MayEnd]
    simp only [executes, ends]
  · intro verdict
    rw [← recounts.ended verdict]
    simp only [ends]

/-- An event keeps the history in accordance with the progress. -/
theorem step (recounts : Recounts history before.progress) (step : Step before event after)
    (allowed : ∀ thread verdict, event = .ended thread verdict → MayEnd history thread) :
    Recounts (history ++ [event]) after.progress := by
  cases step with
  | claim thread =>
    by_cases started : before.progress = .notStarted
    · rw [started] at recounts ⊢
      exact recounts.claim thread
    · obtain ⟨notExecute, same⟩ := claim_of_started started thread
      rw [same]
      refine recounts.keep ?_ (by simp)
      rintro _ _ equal
      cases equal
      exact ⟨notExecute, started⟩
  | ask thread => exact recounts.keep (by simp) (by simp)
  | tell => exact recounts.keep (by simp) (by simp)
  | finish thread verdict => exact finish (allowed thread verdict rfl) verdict

/-- No event leads back. -/
theorem stage_le (recounts : Recounts history before.progress) (step : Step before event after)
    (allowed : ∀ thread verdict, event = .ended thread verdict → MayEnd history thread) :
    before.progress.stage ≤ after.progress.stage := by
  cases step with
  | claim thread =>
    by_cases started : before.progress = .notStarted
    · simp [started, Progress.claim, Progress.stage]
    · rw [(claim_of_started started thread).2]
  | ask thread => exact Nat.le_refl _
  | tell => exact Nat.le_refl _
  | finish thread verdict =>
    rw [(recounts.running thread).1 (allowed thread verdict rfl)]
    cases verdict <;> simp [Verdict.progress, Progress.stage]

/-- What holds of one event holds of a run. -/
theorem run (recounts : Recounts history before.progress) (runs : Runs before events after)
    (disciplined : Disciplined (history ++ events)) :
    Recounts (history ++ events) after.progress ∧
      before.progress.stage ≤ after.progress.stage := by
  induction runs generalizing history with
  | nil state =>
    rw [List.append_nil]
    exact ⟨recounts, Nat.le_refl _⟩
  | @cons before middle after event events first _ inductiveStep =>
    have allowed (thread : ThreadId) (verdict : Verdict) (same : event = .ended thread verdict) :
        MayEnd history thread :=
      disciplined history thread verdict events (by rw [same])
    rw [List.append_cons] at disciplined ⊢
    obtain ⟨onward, later⟩ := inductiveStep (recounts.step first allowed) disciplined
    exact ⟨onward, (recounts.stage_le first allowed).trans later⟩

end Recounts

theorem Disciplined.of_append {more : List Event} (disciplined : Disciplined (history ++ more)) :
    Disciplined history := by
  rintro before thread verdict after rfl
  apply disciplined before thread verdict (after ++ more)
  simp

theorem Runs.split {first second : List Event} (runs : Runs before (first ++ second) after) :
    ∃ middle, Runs before first middle ∧ Runs middle second after := by
  induction first generalizing before with
  | nil => exact ⟨before, .nil before, runs⟩
  | cons event first inductiveStep =>
    cases runs with
    | cons step rest =>
      obtain ⟨middle, earlier, later⟩ := inductiveStep rest
      exact ⟨middle, .cons step earlier, later⟩

/-- The progress at the moment of an event is what the history before it says. -/
theorem Runs.moment {earlier later : List Event} {last : State}
    (runs : Runs .fresh (earlier ++ event :: later) last)
    (disciplined : Disciplined (earlier ++ event :: later)) :
    ∃ before after, Recounts earlier before.progress ∧ Step before event after := by
  obtain ⟨before, first, rest⟩ := runs.split
  have recounts := (Recounts.fresh.run first (by simpa using disciplined.of_append)).1
  cases rest with
  | cons step _ => exact ⟨before, _, recounts, step⟩

/-! ## Answers -/

/-- How a claim is answered, by the history before it. -/
theorem answer_of_claim {answer : Claim} (recounts : Recounts history before.progress)
    (step : Step before (.claimed thread answer) after) :
    (answer = .execute ↔ ∀ other earlier, .claimed other earlier ∉ history) ∧
    (∀ owner, MayEnd history owner →
      answer = if owner = thread then .recursive else .waiting) ∧
    ∀ owner verdict, .ended owner verdict ∈ history → answer = verdict.claim := by
  cases step
  refine ⟨?_, fun owner mayEnd => ?_, fun owner verdict member => ?_⟩
  · rw [recounts.unclaimed]
    constructor
    · intro execute
      by_contra started
      exact (claim_of_started started thread).1 execute
    · intro unstarted
      rw [unstarted]
      rfl
  · rw [(recounts.running owner).1 mayEnd]
    rfl
  · rw [(recounts.ended verdict).1 ⟨owner, member⟩]
    exact verdict.claim_progress thread

/-- What a waiting thread is told, by the history before it. -/
theorem found_of_tell {found : Progress} (recounts : Recounts history before.progress)
    (step : Step before (.told thread found) after) :
    (∀ owner, found ≠ .inProgress owner) ∧
    ∀ other answer, .claimed other answer ∈ history →
      ∃ owner verdict, .ended owner verdict ∈ history ∧ found = verdict.progress := by
  cases step with
  | tell waiting settled =>
    obtain ⟨rfl, resting⟩ := wait?_eq_some settled
    refine ⟨resting, fun other answer member => ?_⟩
    have told (verdict : Verdict) (same : before.progress = verdict.progress) :
        ∃ owner verdict, .ended owner verdict ∈ history ∧ before.progress = verdict.progress := by
      obtain ⟨owner, ended⟩ := (recounts.ended verdict).2 same
      exact ⟨owner, verdict, ended, same⟩
    cases stage : before.progress with
    | notStarted => exact absurd member (recounts.unclaimed.2 stage other answer)
    | inProgress owner => exact absurd stage (resting owner)
    | initialized => exact stage ▸ told .succeeded stage
    | failed => exact stage ▸ told .failed stage

/-- A thread that waits can be told something as long as nothing has been claimed, and again
when the end has been told. -/
theorem can_tell_iff (recounts : Recounts history state.progress)
    (waiting : thread ∈ state.waiting) :
    (∃ found later, Step state (.told thread found) later) ↔
      (∀ other answer, .claimed other answer ∉ history) ∨
        ∃ owner verdict, .ended owner verdict ∈ history := by
  constructor
  · rintro ⟨found, later, step⟩
    by_cases unclaimed : ∀ other answer, .claimed other answer ∉ history
    · exact .inl unclaimed
    · simp only [not_forall, not_not] at unclaimed
      obtain ⟨other, answer, member⟩ := unclaimed
      obtain ⟨owner, verdict, ended, _⟩ := (found_of_tell recounts step).2 other answer member
      exact .inr ⟨owner, verdict, ended⟩
  · rintro (unclaimed | ⟨owner, verdict, ended⟩)
    · have unstarted := recounts.unclaimed.1 unclaimed
      exact ⟨.notStarted, _, .tell waiting (by rw [unstarted]; rfl)⟩
    · have done := (recounts.ended verdict).1 ⟨owner, ended⟩
      exact ⟨verdict.progress, _, .tell waiting (by rw [done]; cases verdict <;> rfl)⟩

/-- However threads claim a class and wait for it, one of them becomes its owner.  The first
claim is told to run the initializer and no other one is.  Until the end has been told, the
owner's claims are recursive and those of all other threads have to wait; afterwards every
claim is told how it ended.  The progress never goes back.  No thread that waits is told that
the class is in progress, and once it has been claimed no thread is told anything but the end.
Nothing else holds a waiting thread up. -/
theorem owner_elected {last : State} (runs : Runs .fresh history last)
    (disciplined : Disciplined history) :
    (∀ before thread answer after, history = before ++ .claimed thread answer :: after →
      (answer = .execute ↔ ∀ other earlier, .claimed other earlier ∉ before) ∧
      (∀ owner, .claimed owner .execute ∈ before →
        (∀ other verdict, .ended other verdict ∉ before) →
        answer = if owner = thread then .recursive else .waiting) ∧
      ∀ owner verdict, .ended owner verdict ∈ before → answer = verdict.claim) ∧
    (∀ before after middle, history = before ++ after → Runs .fresh before middle →
      Runs middle after last → middle.progress.stage ≤ last.progress.stage) ∧
    (∀ before thread found after, history = before ++ .told thread found :: after →
      (∀ owner, found ≠ .inProgress owner) ∧
      ∀ other answer, .claimed other answer ∈ before →
        ∃ owner verdict, .ended owner verdict ∈ before ∧ found = verdict.progress) ∧
    ∀ thread ∈ last.waiting, (∃ found later, Step last (.told thread found) later) ↔
      (∀ other answer, .claimed other answer ∉ history) ∨
        ∃ owner verdict, .ended owner verdict ∈ history := by
  refine ⟨?_, ?_, ?_, ?_⟩
  · rintro before thread answer after rfl
    obtain ⟨state, next, recounts, step⟩ := runs.moment disciplined
    obtain ⟨first, running, done⟩ := answer_of_claim recounts step
    exact ⟨first, fun owner claimed unended => running owner ⟨claimed, unended⟩, done⟩
  · rintro before after middle rfl earlier later
    have recounts := (Recounts.fresh.run earlier (by simpa using disciplined.of_append)).1
    exact (recounts.run later (by simpa using disciplined)).2
  · rintro before thread found after rfl
    obtain ⟨state, next, recounts, step⟩ := runs.moment disciplined
    exact found_of_tell recounts step
  · intro thread waiting
    exact can_tell_iff (Recounts.fresh.run runs disciplined).1 waiting

/-- Two threads want the same class.  The first claims it, claims it again, and fails, while
the second waits for the end. -/
def contested : List Event :=
  [.claimed ⟨1⟩ .execute, .claimed ⟨1⟩ .recursive, .asked ⟨2⟩, .claimed ⟨2⟩ .waiting,
    .ended ⟨1⟩ .failed, .told ⟨2⟩ .failed, .claimed ⟨2⟩ .failed]

theorem contested_runs : Runs .fresh contested ⟨.failed, []⟩ :=
  .cons (.claim _ ⟨1⟩) <| .cons (.claim _ ⟨1⟩) <| .cons (.ask _ ⟨2⟩) <| .cons (.claim _ ⟨2⟩) <|
    .cons (.finish _ ⟨1⟩ .failed) <| .cons (.tell (by decide) rfl) <|
      .cons (.claim _ ⟨2⟩) (.nil _)

theorem contested_disciplined : Disciplined contested := by
  intro before thread verdict after same
  simp only [contested, List.cons_eq_append_iff, List.nil_eq_append_iff, List.cons.injEq,
    reduceCtorEq, false_and, and_false, exists_false, or_false, false_or,
    Event.ended.injEq] at same
  obtain ⟨_, rfl, _, rfl, _, rfl, _, rfl, rfl, ⟨rfl, _⟩, _⟩ := same
  simp [MayEnd]

theorem owner_elected_contested :
    ∃ last, Runs .fresh contested last ∧ Disciplined contested ∧
      ((.claimed ⟨1⟩ .execute ∈ contested.take 3 ∧
          ∀ other verdict, .ended other verdict ∉ contested.take 3) ∧
        contested = contested.take 3 ++ .claimed ⟨2⟩ .waiting :: contested.drop 4 ∧
        Claim.waiting = if (⟨1⟩ : ThreadId) = ⟨2⟩ then .recursive else .waiting) ∧
      contested = contested.take 5 ++ .told ⟨2⟩ .failed :: contested.drop 6 ∧
      (∃ other answer, .claimed other answer ∈ contested.take 5) ∧
      ∃ owner verdict, .ended owner verdict ∈ contested.take 5 ∧
        Progress.failed = verdict.progress := by
  obtain ⟨answers, _, told, _⟩ := owner_elected contested_runs contested_disciplined
  have claims : contested = contested.take 3 ++ .claimed ⟨2⟩ .waiting :: contested.drop 4 := rfl
  have tells : contested = contested.take 5 ++ .told ⟨2⟩ .failed :: contested.drop 6 := rfl
  have owned : .claimed ⟨1⟩ .execute ∈ contested.take 3 := by decide
  have unended : ∀ other verdict, .ended other verdict ∉ contested.take 3 := by
    simp [contested]
  have begun : .claimed ⟨1⟩ .execute ∈ contested.take 5 := by decide
  refine ⟨_, contested_runs, contested_disciplined, ⟨⟨owned, unended⟩, claims, ?_⟩, tells,
    ⟨_, _, begun⟩, ?_⟩
  · exact (answers _ _ _ _ claims).2.1 ⟨1⟩ owned unended
  · exact (told _ _ _ _ tells).2 ⟨1⟩ .execute begun

end Ownership
end ClassRuntime

import ClassRuntime.Proofs.Execution.Development
import ClassRuntime.Proofs.Machine.Questions

namespace ClassRuntime

/-!
# Assignability in runs

A run asks questions of assignability in many places: threads and initializers ask
them by operations, and natives in the course of calls.  In between, loaders,
definitions and classes are added.  The cache never shows in the answers.  Each of
them is what the graph of classes gives at the time of the question.

What can be seen of the cache are the counters.  Whatever a machine in a run has
been asked, hits and misses together are the number of questions.  If all of them
were about classes that existed, the misses alone are the number of different pairs
of classes.  This is so at the end of the run, at each moment on its record and
whenever a question is asked.
-/

namespace Setting

variable {ι σ : Type}

/-- At each moment of a run the machine has a history, and in every history that
it can have had, answers and counters are those of a machine without a cache that
counts repeated questions separately. -/
theorem run_answers_faithfully (setting : Setting ι σ) (number : Nat)
    (definitions : List (ClassDefinition ι)) (state : σ) (depth : Nat) (tasks : List (Task ι)) :
    let first : Machine ι := .initial number definitions
    let last := ((setting.run depth tasks).outcome (start number definitions state)).2
    ∀ machine, machine = last.machine ∨ (∃ moment ∈ last.host.moments, machine = moment.machine) →
      (∀ source target, (Question.mk machine source target).answer =
        machine.area.graph.assignable source target) ∧
      (∃ questions, first.History questions machine) ∧
      ∀ questions, first.History questions machine →
        machine.metrics.cacheHits + machine.metrics.cacheMisses = questions.length ∧
        ((∀ question ∈ questions, question.Proper) →
          machine.metrics.cacheMisses = Question.distinct questions) ∧
        ∀ past question rest, questions = past ++ question :: rest →
          question.answer =
            question.machine.area.graph.assignable question.source question.target ∧
          (question.Proper → ∃ answer, question.answer = .ok answer) ∧
          (question.after.metrics = question.machine.metrics.countHit ∨
            question.after.metrics = question.machine.metrics.countMiss) ∧
          question.machine.metrics.cacheHits + question.machine.metrics.cacheMisses =
            past.length ∧
          ((∀ earlier ∈ past, earlier.Proper) →
            question.machine.metrics.cacheMisses = Question.distinct past) := by
  intro first last machine moment
  have becomes : first.Becomes machine :=
    becomes_of_run setting number definitions state depth tasks (Session.mem_machines.2 moment)
  have reachable : machine.Reachable := ⟨number, definitions, becomes⟩
  refine ⟨fun source target => Question.answer_eq reachable.honest, becomes,
    fun questions history => ⟨history.account.counted, history.account.missed, ?_⟩⟩
  intro past question rest divided
  have before := (history.split divided).1
  have asked : question.machine.Reachable := ⟨number, definitions, past, before⟩
  have answered := question.answer_eq asked.honest
  refine ⟨answered, fun proper => ?_, question.counted, before.account.counted,
    before.account.missed⟩
  rw [answered]
  exact proper.decided asked.grounded

/-- A request that is granted is one step of a run. -/
theorem run_request {α : Type} (setting : Setting ι σ) (depth : Nat) (thread : ThreadId)
    (request : Request ι α) (rest : List (Task ι)) (session : Session ι (Recorded ι σ))
    (granted : (request.perform.outcome session.machine).1.toOption.isSome) :
    ∃ later : Session ι (Recorded ι σ),
      later.machine = (request.perform.outcome session.machine).2 ∧
      (setting.run depth (⟨thread, .request request⟩ :: rest)).outcome session =
        (setting.run depth rest).outcome later := by
  rcases ended : request.perform.outcome session.machine with ⟨fault | value, after⟩
  · rw [ended] at granted
    cases granted
  · refine ⟨Recorded.noted (.ended thread)
      { Recorded.noted (.started thread) session with machine := after }, rfl, ?_⟩
    have performed : (setting.perform (Initialization.initClass setting.host depth) thread
        (.request request)).outcome (Recorded.noted (.started thread) session) =
          (.ok value, { Recorded.noted (.started thread) session with machine := after }) := by
      rw [perform, Session.onMachine, Action.outcome_within]
      change ((request.perform.outcome session.machine).1,
        { Recorded.noted (.started thread) session with
          machine := (request.perform.outcome session.machine).2 }) = _
      rw [ended]
    rw [run, Action.outcome_bind, Recorded.outcome_observe, performed]

/-- The case of a question that is asked once before and once after the root has
been loaded, and of another one about the root itself. -/
theorem run_answers_faithfully_repeated :
    let setting : Setting Unit Unit :=
      ⟨Native.builtinRegistry, Native.lawful_builtinRegistry, fun _ _ _ => .finish (.ok ()), 2⟩
    let definitions : List (ClassDefinition Unit) :=
      [{ ClassDefinition.ordinary ClassName.object with superName := none }]
    let void : ClassId := ⟨.bootstrap, 0⟩
    let root : ClassId := ⟨.bootstrap, 9⟩
    let tasks : List (Task Unit) :=
      [⟨⟨1⟩, .request (.isAssignable void void)⟩, ⟨⟨1⟩, .request (.load .bootstrap .object)⟩,
        ⟨⟨1⟩, .request (.isAssignable void void)⟩, ⟨⟨1⟩, .request (.isAssignable root root)⟩]
    let last := ((setting.run 0 tasks).outcome (start 0 definitions ())).2
    ∃ questions : List (Question Unit),
      (Machine.initial 0 definitions).History questions last.machine ∧
      questions.map Question.pair = [(void, void), (void, void), (root, root)] ∧
      (∀ question ∈ questions, question.Proper) ∧
      last.machine.metrics.cacheHits + last.machine.metrics.cacheMisses = 3 ∧
      last.machine.metrics.cacheMisses = Question.distinct questions := by
  intro setting definitions void root tasks last
  let first : Machine Unit := .initial 0 definitions
  let asked := (Question.mk first void void).after
  let loaded := ((Machine.load .bootstrap .object).outcome asked).2
  let again := (Question.mk loaded void void).after
  let final := (Question.mk again root root).after
  let questions : List (Question Unit) := [⟨first, void, void⟩, ⟨loaded, void, void⟩,
    ⟨again, root, root⟩]
  have ended : last.machine = final := by
    rcases setting.run_request 0 ⟨1⟩ (.isAssignable void void) (tasks.drop 1)
      (start 0 definitions ()) (by decide +kernel) with ⟨second, sameSecond, toSecond⟩
    rcases setting.run_request 0 ⟨1⟩ (.load .bootstrap .object) (tasks.drop 2) second
      (by rw [sameSecond]; decide +kernel) with ⟨third, sameThird, toThird⟩
    rcases setting.run_request 0 ⟨1⟩ (.isAssignable void void) (tasks.drop 3) third
      (by rw [sameThird, sameSecond]; decide +kernel) with ⟨fourth, sameFourth, toFourth⟩
    rcases setting.run_request 0 ⟨1⟩ (.isAssignable root root) [] fourth
      (by rw [sameFourth, sameThird, sameSecond]; decide +kernel) with ⟨fifth, sameFifth, toFifth⟩
    have ran := toSecond.trans (toThird.trans (toFourth.trans toFifth))
    rw [sameFourth, sameThird, sameSecond] at sameFifth
    exact (congrArg (fun result => result.2.machine) ran).trans sameFifth
  have history : first.History questions final :=
    (((Machine.History.start.step (.request first (.isAssignable void void))).step
      (.request asked (.load .bootstrap .object))).step
      (.request loaded (.isAssignable void void))).step (.request again (.isAssignable root root))
  rw [← ended] at history
  have proper : ∀ question ∈ questions, question.Proper := by
    simp only [questions, List.mem_cons, List.not_mem_nil, or_false, forall_eq_or_imp, forall_eq]
    exact ⟨⟨by decide +kernel, by decide +kernel⟩, ⟨by decide +kernel, by decide +kernel⟩,
      ⟨by decide +kernel, by decide +kernel⟩⟩
  have faithful := setting.run_answers_faithfully 0 definitions () 0 tasks last.machine (.inl rfl)
  have counted := faithful.2.2 questions history
  exact ⟨questions, history, rfl, proper, counted.1, counted.2.1 proper⟩

end Setting
end ClassRuntime

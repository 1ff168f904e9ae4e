import ClassRuntime.Proofs.Machine.Reachability
import Mathlib.Data.Finset.Card
import Mathlib.Data.Finset.Insert
import Mathlib.Data.Finset.Dedup

namespace ClassRuntime
namespace Machine

/-!
# Questions of assignability

A machine answers a question from its cache if it can, and otherwise by looking at
the graph of its classes.  An answer is kept from then on, whatever is loaded in
the meantime.  It stays the right one because every later graph extends the graph
in which it was found.  So the cache makes no difference to the answers.

It makes a difference to the counters, and these tell exactly which one.  Each
question is counted as a hit or as a miss.  As long as only classes that exist are
asked about, there is one miss for each pair of classes: the first question about
the pair has an answer, since the graph is founded, and this answer is kept.
-/

variable {ι α : Type} {before after machine : Machine ι} {questions : List (Question ι)}
  {source target : ClassId}

/-! ## One question -/

theorem outcome_isAssignable_known {answer : Bool}
    (known : machine.assignability.find? (source, target) = some answer) :
    (isAssignable source target).outcome machine =
      (.ok answer, { machine with metrics := machine.metrics.countHit }) := by
  simp only [isAssignable, Action.outcome_bind, Action.outcome_get, known]
  rfl

theorem outcome_isAssignable_new
    (unknown : machine.assignability.find? (source, target) = none) {answer : Bool}
    (decided : machine.area.graph.assignable source target = .ok answer) :
    (isAssignable source target).outcome machine =
      (.ok answer, { machine with
        metrics := machine.metrics.countMiss
        assignability := machine.assignability.insert (source, target) answer }) := by
  simp only [isAssignable, Action.outcome_bind, Action.outcome_get, unknown, count,
    Action.outcome_modify, decided, Action.outcome_ofExcept]
  rfl

theorem outcome_isAssignable_fault
    (unknown : machine.assignability.find? (source, target) = none) {fault : Fault}
    (failed : machine.area.graph.assignable source target = .error fault) :
    (isAssignable source target).outcome machine =
      (.error fault, { machine with metrics := machine.metrics.countMiss }) := by
  simp only [isAssignable, Action.outcome_bind, Action.outcome_get, unknown, count,
    Action.outcome_modify, failed, Action.outcome_ofExcept]

/-- The answers in the cache are those that the graph gives. -/
def Honest (machine : Machine ι) : Prop :=
  ∀ source target answer, machine.assignability.find? (source, target) = some answer →
    machine.area.graph.assignable source target = .ok answer

end Machine

namespace Question

variable {ι : Type} {question : Question ι}

/-- A machine whose cache is right answers as if it had none. -/
theorem answer_eq (honest : question.machine.Honest) :
    question.answer = question.machine.area.graph.assignable question.source question.target := by
  unfold answer
  cases known : question.machine.assignability.find? (question.source, question.target) with
  | some answer =>
    rw [Machine.outcome_isAssignable_known known]
    exact (honest _ _ answer known).symm
  | none =>
    cases decided : question.machine.area.graph.assignable question.source question.target with
    | ok answer => rw [Machine.outcome_isAssignable_new known decided]
    | error fault => rw [Machine.outcome_isAssignable_fault known decided]

/-- A question is a hit or a miss, and nothing else is counted. -/
theorem counted (question : Question ι) :
    question.after.metrics = question.machine.metrics.countHit ∨
      question.after.metrics = question.machine.metrics.countMiss := by
  unfold after
  cases known : question.machine.assignability.find? (question.source, question.target) with
  | some answer =>
    rw [Machine.outcome_isAssignable_known known]
    exact Or.inl rfl
  | none =>
    cases decided : question.machine.area.graph.assignable question.source question.target with
    | ok answer =>
      rw [Machine.outcome_isAssignable_new known decided]
      exact Or.inr rfl
    | error fault =>
      rw [Machine.outcome_isAssignable_fault known decided]
      exact Or.inr rfl

theorem Proper.decided (proper : question.Proper) (grounded : question.machine.area.Grounded) :
    ∃ answer, question.machine.area.graph.assignable question.source question.target =
      .ok answer :=
  grounded.founded.exists_assignable (Area.mem_classIds.2 proper.1) (Area.mem_classIds.2 proper.2)

/-- The number of different pairs of classes that are asked about. -/
def distinct (questions : List (Question ι)) : Nat :=
  (questions.map pair).toFinset.card

theorem distinct_append_of_mem {questions : List (Question ι)}
    (asked : question.pair ∈ questions.map pair) :
    distinct (questions ++ [question]) = distinct questions := by
  rw [distinct, List.map_append, List.toFinset_append, Finset.union_eq_left.2]
  · rfl
  · intro other member
    rw [List.map_singleton, List.mem_toFinset, List.mem_singleton] at member
    rw [member, List.mem_toFinset]
    exact asked

theorem distinct_append_of_notMem {questions : List (Question ι)}
    (new : question.pair ∉ questions.map pair) :
    distinct (questions ++ [question]) = distinct questions + 1 := by
  rw [distinct, List.map_append, List.toFinset_append, List.map_singleton,
    Finset.card_union_of_disjoint]
  · rfl
  · rw [List.toFinset_cons, List.toFinset_nil, insert_empty_eq, Finset.disjoint_singleton_right,
      List.mem_toFinset]
    exact new

end Question

namespace Machine

variable {ι α : Type} {before after machine : Machine ι} {questions : List (Question ι)}

/-! ## What other steps leave alone -/

/-- Neither the answers nor what is counted about them has changed. -/
structure Unasked (before after : Machine ι) : Prop where
  answers : after.assignability = before.assignability
  hits : after.metrics.cacheHits = before.metrics.cacheHits
  misses : after.metrics.cacheMisses = before.metrics.cacheMisses

instance : IsPreorder (Machine ι) Unasked where
  refl _ := ⟨rfl, rfl, rfl⟩
  trans _ _ _ first second := ⟨second.answers.trans first.answers, second.hits.trans first.hits,
    second.misses.trans first.misses⟩

theorem unasked_onArea (action : Action (Area ι) α) : (onArea action).Within Unasked :=
  fun _ => ⟨rfl, rfl, rfl⟩

theorem providing_unasked :
    Providing fun α (action : Action (Machine ι) α) => action.Within Unasked where
  toCompositional := Action.compositional_within Unasked
  attach _ := ⟨rfl, rfl, rfl⟩
  addLoader _ _ _ := unasked_onArea _
  addDefinition _ _ := unasked_onArea _
  load _ _ := unasked_onArea _
  resolve _ _ := unasked_onArea _
  getLoader _ := unasked_onArea _
  getClass _ := unasked_onArea _
  makeObject _ _ := ⟨rfl, rfl, rfl⟩
  makeMirror _ _ _ := ⟨rfl, rfl, rfl⟩
  makePool _ _ _ := ⟨rfl, rfl, rfl⟩
  makeHandle _ _ _ := ⟨rfl, rfl, rfl⟩

theorem Step.unasked (step : Step before none after) : before.Unasked after := by
  generalize labelled : (none : Option (Question ι)) = label at step
  cases step with
  | request machine request =>
    exact providing_unasked.handing.perform_of_unasked request
      (Option.map_eq_none_iff.1 labelled.symm) before
  | progress => exact ⟨rfl, rfl, rfl⟩
  | count _ listed =>
    simp only [List.mem_cons, List.not_mem_nil, or_false] at listed
    rcases listed with rfl | rfl | rfl <;> exact ⟨rfl, rfl, rfl⟩

/-! ## The account of a history -/

/-- The cache and its counters after some questions. -/
structure Account (questions : List (Question ι)) (machine : Machine ι) : Prop where
  honest : machine.Honest
  /-- What is in the cache has been asked. -/
  asked : ∀ pair answer, machine.assignability.find? pair = some answer →
    pair ∈ questions.map Question.pair
  /-- What has been asked is in the cache. -/
  kept : (∀ question ∈ questions, question.Proper) → ∀ pair ∈ questions.map Question.pair,
    ∃ answer, machine.assignability.find? pair = some answer
  counted : machine.metrics.cacheHits + machine.metrics.cacheMisses = questions.length
  missed : (∀ question ∈ questions, question.Proper) →
    machine.metrics.cacheMisses = Question.distinct questions

theorem account_initial (number : Nat) (definitions : List (ClassDefinition ι)) :
    Account [] (initial number definitions) where
  honest _ _ _ impossible := by cases impossible
  asked _ _ impossible := by cases impossible
  kept _ _ impossible := by cases impossible
  counted := rfl
  missed _ := rfl

namespace Account

/-- An answer that has been found in a graph is right in every later one. -/
theorem unasked (account : Account questions before) (unasked : before.Unasked after)
    (retains : before.Retains after) : Account questions after where
  honest source target answer known := by
    rw [unasked.answers] at known
    exact retains.extends.assignable source target answer (account.honest _ _ _ known)
  asked pair answer known := by
    rw [unasked.answers] at known
    exact account.asked pair answer known
  kept proper pair member := by
    rw [unasked.answers]
    exact account.kept proper pair member
  counted := by
    rw [unasked.hits, unasked.misses]
    exact account.counted
  missed proper := by
    rw [unasked.misses]
    exact account.missed proper

variable {question : Question ι}

/-- A question that has been answered before. -/
theorem hit (account : Account questions question.machine) {answer : Bool}
    (known : question.machine.assignability.find? question.pair = some answer) :
    Account (questions ++ [question]) question.after := by
  have again := account.asked question.pair answer known
  have same : question.after = _ := congrArg Prod.snd (outcome_isAssignable_known known)
  rw [same]
  constructor
  · exact account.honest
  · intro pair answer known
    rw [List.map_append]
    exact List.mem_append_left _ (account.asked pair answer known)
  · intro proper pair member
    refine account.kept (fun other here => proper other (List.mem_append_left _ here)) pair ?_
    rw [List.map_append, List.mem_append, List.map_singleton, List.mem_singleton] at member
    rcases member with earlier | rfl
    · exact earlier
    · exact again
  · rw [List.length_append, ← account.counted, List.length_singleton]
    simp only [Metrics.countHit]
    omega
  · intro proper
    rw [Question.distinct_append_of_mem again,
      ← account.missed fun other here => proper other (List.mem_append_left _ here)]
    rfl

/-- A question that has not been answered before.  If its classes exist, there is
an answer now. -/
theorem miss (account : Account questions question.machine)
    (grounded : question.machine.area.Grounded)
    (unknown : question.machine.assignability.find? question.pair = none) :
    Account (questions ++ [question]) question.after := by
  have new (proper : ∀ other ∈ questions, other.Proper) :
      question.pair ∉ questions.map Question.pair := by
    intro earlier
    rcases account.kept proper _ earlier with ⟨answer, known⟩
    rw [unknown] at known
    cases known
  have misses (proper : ∀ other ∈ questions ++ [question], other.Proper) :
      question.machine.metrics.countMiss.cacheMisses =
        Question.distinct (questions ++ [question]) := by
    have earlier (other : Question ι) (here : other ∈ questions) : other.Proper :=
      proper other (List.mem_append_left _ here)
    rw [Question.distinct_append_of_notMem (new earlier), ← account.missed earlier]
    rfl
  have counts : question.machine.metrics.countMiss.cacheHits +
      question.machine.metrics.countMiss.cacheMisses = (questions ++ [question]).length := by
    rw [List.length_append, ← account.counted, List.length_singleton]
    simp only [Metrics.countMiss]
    omega
  cases decided : question.machine.area.graph.assignable question.source question.target with
  | error fault =>
    have same : question.after = _ := congrArg Prod.snd (outcome_isAssignable_fault unknown decided)
    rw [same]
    refine ⟨account.honest, fun pair answer known => ?_, fun proper => ?_, counts, misses⟩
    · rw [List.map_append]
      exact List.mem_append_left _ (account.asked pair answer known)
    · have last : question.Proper :=
        proper question (List.mem_append_right _ (List.mem_singleton_self question))
      rcases last.decided grounded with ⟨answer, ended⟩
      rw [decided] at ended
      cases ended
  | ok answer =>
    have same : question.after = _ := congrArg Prod.snd (outcome_isAssignable_new unknown decided)
    rw [same]
    constructor
    · intro source target other known
      rw [Table.find?_insert] at known
      split at known
      next here =>
        cases here
        cases known
        exact decided
      next => exact account.honest source target other known
    · intro pair other known
      rw [List.map_append, List.mem_append, List.map_singleton, List.mem_singleton]
      rw [Table.find?_insert] at known
      split at known
      next here => exact Or.inr here.symm
      next => exact Or.inl (account.asked pair other known)
    · intro proper pair member
      rw [Table.find?_insert]
      split
      · exact ⟨answer, rfl⟩
      next different =>
        rw [List.map_append, List.mem_append, List.map_singleton, List.mem_singleton] at member
        rcases member with earlier | rfl
        · exact account.kept (fun other here => proper other (List.mem_append_left _ here)) pair
            earlier
        · exact absurd rfl different
    · exact counts
    · exact misses

theorem step {question? : Option (Question ι)} (account : Account questions before)
    (grounded : before.area.Grounded) (step : Step before question? after) :
    Account (questions ++ question?.toList) after := by
  cases question? with
  | none =>
    rw [Option.toList_none, List.append_nil]
    exact account.unasked step.unasked step.becomes.retains
  | some question =>
    rcases step.asked with ⟨rfl, rfl⟩
    cases known : question.machine.assignability.find? question.pair with
    | some answer => exact account.hit known
    | none => exact account.miss grounded known

end Account

theorem History.account {number : Nat} {definitions : List (ClassDefinition ι)}
    (history : (initial number definitions).History questions machine) :
    Account questions machine := by
  induction history with
  | start => exact account_initial number definitions
  | step past step inductiveStep =>
    have reachable : Reachable _ := ⟨number, definitions, _, past⟩
    exact inductiveStep.step reachable.grounded step

/-- The cache of a reachable machine is right. -/
theorem Reachable.honest (reachable : machine.Reachable) : machine.Honest := by
  rcases reachable with ⟨number, definitions, questions, history⟩
  exact history.account.honest

end Machine
end ClassRuntime

import ClassRuntime.Proofs.Machine.Requests

namespace ClassRuntime

/-!
# Histories of machines

Three things happen to a machine: a request is put to it, the initialization of a
class makes progress, and calls and initializers are counted.  A history is a
sequence of such steps, of which only the questions of assignability are kept on
record, oldest first, each with the machine to which it was put.

Nothing is assumed about the order of the steps or about their success.  So what
is true of all histories is true of a machine however it is used.
-/

/-- A question of assignability, with the machine as it was when it was asked. -/
structure Question (ι : Type) where
  machine : Machine ι
  source : ClassId
  target : ClassId

namespace Question

variable {ι : Type}

/-- The classes that the question is about. -/
def pair (question : Question ι) : ClassId × ClassId :=
  (question.source, question.target)

/-- The answer that the machine gives. -/
def answer (question : Question ι) : Except Fault Bool :=
  ((Machine.isAssignable question.source question.target).outcome question.machine).1

/-- The machine after it has answered. -/
def after (question : Question ι) : Machine ι :=
  ((Machine.isAssignable question.source question.target).outcome question.machine).2

/-- Both classes exist. -/
def Proper (question : Question ι) : Prop :=
  (question.machine.area.class? question.source).isSome ∧
    (question.machine.area.class? question.target).isSome

end Question

namespace Machine

variable {ι α : Type} {first before after last machine : Machine ι}
  {questions : List (Question ι)} {question? : Option (Question ι)}

/-- What can happen to a machine at a time, with the question if one is asked. -/
inductive Step : Machine ι → Option (Question ι) → Machine ι → Prop
  | request {α : Type} (machine : Machine ι) (request : Request ι α) :
      Step machine (request.question?.map fun pair => ⟨machine, pair.1, pair.2⟩)
        (request.perform.outcome machine).2
  | progress (machine : Machine ι) (id : ClassId) (progress : Progress) :
      Step machine none ((setProgress id progress).outcome machine).2
  | count (machine : Machine ι) {advance : Metrics → Metrics}
      (listed : advance ∈
        [Metrics.countDispatch, Metrics.countDeferral, Metrics.countInitializer]) :
      Step machine none ((count advance).outcome machine).2

/-- The questions that have been asked while one machine became another. -/
inductive History (first : Machine ι) : List (Question ι) → Machine ι → Prop
  | start : History first [] first
  | step {questions : List (Question ι)} {question? : Option (Question ι)}
      {before after : Machine ι} (past : History first questions before)
      (step : Step before question? after) :
      History first (questions ++ question?.toList) after

/-- The second machine comes about from the first. -/
def Becomes (before after : Machine ι) : Prop :=
  ∃ questions, before.History questions after

/-! ## Histories in sequence -/

theorem History.append {later : List (Question ι)} (past : first.History questions before)
    (onward : before.History later last) : first.History (questions ++ later) last := by
  induction onward with
  | start =>
    rw [List.append_nil]
    exact past
  | step _ step inductiveStep =>
    rw [← List.append_assoc]
    exact inductiveStep.step step

instance : IsPreorder (Machine ι) Becomes where
  refl _ := ⟨[], .start⟩
  trans _ _ _ := by
    rintro ⟨questions, past⟩ ⟨later, onward⟩
    exact ⟨questions ++ later, past.append onward⟩

theorem Step.becomes (step : Step before question? after) : before.Becomes after :=
  ⟨_, History.start.step step⟩

theorem Step.asked {question : Question ι} (step : Step before (some question) after) :
    question.machine = before ∧ after = question.after := by
  generalize labelled : some question = label at step
  cases step with
  | request machine request =>
    rcases Option.map_eq_some_iff.1 labelled.symm with ⟨pair, asked, rfl⟩
    let leads : Action.Property (Machine ι) := fun _ action =>
      (action.outcome before).2 = (Question.mk before pair.1 pair.2).after
    have same : leads Bool (isAssignable pair.1 pair.2) := rfl
    exact ⟨rfl, perform_of_asked request asked same⟩
  | progress => cases labelled
  | count => cases labelled

/-- A question on record was asked in the course of the history. -/
theorem History.split (history : first.History questions last)
    {past rest : List (Question ι)} {question : Question ι}
    (divided : questions = past ++ question :: rest) :
    first.History past question.machine ∧ question.after.Becomes last := by
  induction history generalizing rest with
  | start => exact absurd divided.symm (List.append_ne_nil_of_right_ne_nil _ (List.cons_ne_nil _ _))
  | @step questions question? before after past' step inductiveStep =>
    cases question? with
    | none =>
      rw [Option.toList_none, List.append_nil] at divided
      rcases inductiveStep divided with ⟨asked, onward⟩
      exact ⟨asked, trans_of Becomes onward step.becomes⟩
    | some latest =>
      rcases step.asked with ⟨rfl, rfl⟩
      rcases List.eq_nil_or_concat rest with rfl | ⟨middle, final, rfl⟩
      · rw [Option.toList_some] at divided
        rcases List.append_inj' divided rfl with ⟨rfl, same⟩
        cases same
        exact ⟨past', refl_of Becomes _⟩
      · rw [List.concat_eq_append, Option.toList_some, ← List.cons_append,
          ← List.append_assoc] at divided
        rcases List.append_inj' divided rfl with ⟨earlier, _⟩
        rcases inductiveStep earlier with ⟨asked, onward⟩
        exact ⟨asked, trans_of Becomes onward step.becomes⟩

/-! ## What happens is a history -/

theorem becomes_perform (request : Request ι α) : request.perform.Within Becomes :=
  fun machine => (Step.request machine request).becomes

theorem becomes_setProgress (id : ClassId) (progress : Progress) :
    (setProgress id progress : Action (Machine ι) Unit).Within Becomes :=
  fun machine => (Step.progress machine id progress).becomes

theorem becomes_count {advance : Metrics → Metrics}
    (listed : advance ∈ [Metrics.countDispatch, Metrics.countDeferral, Metrics.countInitializer]) :
    (count advance : Action (Machine ι) Unit).Within Becomes :=
  fun machine => (Step.count machine listed).becomes

theorem becomes_getClass (id : ClassId) :
    (getClass id : Action (Machine ι) (LoadedClass ι)).Within Becomes := by
  intro machine
  rw [outcome_getClass]
  exact refl_of Becomes machine

theorem handing_becomes :
    Handing fun α (action : Action (Machine ι) α) => action.Within Becomes where
  toCompositional := Action.compositional_within Becomes
  attach := becomes_perform .attach
  addLoader name source parent := becomes_perform (.addLoader name source parent)
  addDefinition id definition := becomes_perform (.addDefinition id definition)
  load id name := becomes_perform (.load id name)
  resolve id name := becomes_perform (.resolve id name)
  getClass := becomes_getClass
  makeObject make := becomes_perform (.object make)
  mirrorOf id := becomes_perform (.mirror id)
  poolOf id := becomes_perform (.pool id)
  handleOf id := becomes_perform (.handle id)

theorem Reaches.becomes (reached : before.Reaches after) : before.Becomes after :=
  reached.within becomes_perform

/-! ## Relations that histories keep -/

/-- What relates the machines before and after each step relates those before and
after any history. -/
theorem Becomes.within {relation : Machine ι → Machine ι → Prop} [IsPreorder (Machine ι) relation]
    (each : ∀ {before question? after}, Step before question? after → relation before after)
    (becomes : before.Becomes after) : relation before after := by
  rcases becomes with ⟨questions, history⟩
  induction history with
  | start => exact refl_of relation before
  | step _ step inductiveStep => exact trans_of relation inductiveStep (each step)

theorem Becomes.area {relation : Area ι → Area ι → Prop} (spans : Spans relation)
    (becomes : before.Becomes after) : relation before.area after.area := by
  have := spans.preorder
  change Spans.Between relation before after
  refine becomes.within fun {before _ after} step => ?_
  cases step with
  | request _ request => exact spans.requesting.perform request before
  | progress _ id progress => exact spans.progress before.area id progress
  | count _ listed => exact spans.refl before.area

theorem Becomes.retains (becomes : before.Becomes after) : before.Retains after :=
  becomes.area spans_retains

end Machine
end ClassRuntime

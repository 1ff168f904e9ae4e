import ClassRuntime.Proofs.Loader.Refusal
import ClassRuntime.Proofs.Loader.Settled

namespace ClassRuntime
namespace Area

/-!
# Failed loads

After a failed load the request is refused: what the load found on its way is
answered from then on, and the error that stopped it is there to stop the next
one in the same place.  So a load that has failed fails again in the same way,
and this time without any change.

The proof follows the load.  Two facts are carried along.  While a definition is
being linked, its name is without an answer and the parent refuses it, so that
nobody can provide an answer by another way in the meantime.  And an array that
is answered lives with its component, so that an answer is never replaced by
another one.

Nothing here depends on when the definitions were given.
-/

variable {ι : Type} {α : Type} {area before middle after later : Area ι}

/-- The parent does not find the name. -/
def Missed (area : Area ι) (id : LoaderId) (name : ClassName) : Prop :=
  ∀ parent, area.parent? id = some parent →
    ∃ missing, area.Refuses (.load [] parent name) (.classNotFound missing)

/-- Whatever is being linked is without an answer and not to be found by a parent. -/
def Awaiting (area : Area ι) : Prop :=
  ∀ ⦃id name⦄, name ∈ area.linking id → area.lookup? id name = none ∧ area.Missed id name

/-- An array that a loader answers lives with the component that it answers. -/
def Homed (area : Area ι) : Prop :=
  ∀ ⦃id name component found⦄, name.component? = some component →
    area.lookup? id name = some found →
      ∃ element, area.lookup? id component = some element ∧ found.loader = element.loader

/-- What a parent does not find it will not find. -/
theorem Missed.keep {id : LoaderId} {name : ClassName} (missed : area.Missed id name)
    (accrues : area.Accrues later) (parent : later.parent? id = area.parent? id) :
    later.Missed id name := by
  intro above below
  rw [parent] at below
  rcases missed above below with ⟨missing, refused⟩
  exact ⟨missing, accrues.refuses refused⟩

/-! ## The ways an area gains an answer -/

theorem SameViews.gains (same : area.SameViews later) : area.Gains later where
  toSamePlan := same.toSamePlan
  type {id _} typed := (same.type id).trans typed
  answers {id name _} answered := (same.answer id name).trans answered
  attained {id name _} answered := .answered ((same.answer id name).symm.trans answered)
  made {id _} typed := Or.inl ((same.type id).symm.trans typed)

/-- The later area has one more answer, and perhaps the assembled class for it. -/
structure Adds (area later : Area ι) (id : LoaderId) (name : ClassName) (found : ClassId) :
    Prop where
  frame : area.SameFrame later
  type : ∀ {other type}, area.type? other = some type → later.type? other = some type
  made : ∀ {other type}, later.type? other = some type →
    area.type? other = some type ∨ area.Assembled other type
  answer : ∀ other sought, later.lookup? other sought =
    if id = other ∧ name = sought then some found else area.lookup? other sought

section

variable {id : LoaderId} {loader : Loader ι} {name : ClassName} {found : ClassId}

theorem adds_answer (known : area.loader? id = some loader) (name : ClassName)
    (found : ClassId) :
    area.Adds (area.updateLoader id fun loader => loader.answer name found) id name found where
  frame := sameFrame_answer area id name found
  type typed := by
    rw [type?_answer]
    exact typed
  made typed := by
    rw [type?_answer] at typed
    exact Or.inl typed
  answer := lookup?_answer known name found

theorem adds_placed (known : area.loader? id = some loader) (name : ClassName)
    (loaded : LoadedClass ι)
    (assembled : area.Assembled ⟨id, loader.classes.size⟩ loaded.toTypeDescriptor) :
    area.Adds (placed area id loader name loaded) id name ⟨id, loader.classes.size⟩ where
  frame := sameFrame_placed
  type {other type} typed := by
    rw [type?_placed known, if_neg]
    · exact typed
    · rintro rfl
      rw [type?, class?_next known] at typed
      cases typed
  made {other type} typed := by
    rw [type?_placed known] at typed
    split at typed
    next here =>
      subst here
      cases typed
      exact Or.inr assembled
    next => exact Or.inl typed
  answer := lookup?_placed known

/-- An answer that may be added: it could be attained, replaces no other and is
not awaited. -/
structure Addable (area : Area ι) (id : LoaderId) (name : ClassName) (found : ClassId) :
    Prop where
  attainable : area.Attainable id name
  kept : ∀ {other}, area.lookup? id name = some other → other = found
  unmarked : name ∉ area.linking id
  home : ∀ {component}, name.component? = some component →
    ∃ element, area.lookup? id component = some element ∧ found.loader = element.loader

namespace Adds

theorem gains (adds : area.Adds later id name found) (addable : area.Addable id name found) :
    area.Gains later where
  toSamePlan := adds.frame.samePlan
  type := adds.type
  made := adds.made
  answers {other sought answer} answered := by
    rw [adds.answer]
    split
    next here =>
      rcases here with ⟨rfl, rfl⟩
      rw [addable.kept answered]
    next => exact answered
  attained {other sought answer} answered := by
    rw [adds.answer] at answered
    split at answered
    next here =>
      rcases here with ⟨rfl, rfl⟩
      exact addable.attainable
    next => exact .answered answered

theorem homed (adds : area.Adds later id name found) (addable : area.Addable id name found)
    (homed : area.Homed) : later.Homed := by
  intro other sought component answer shape answered
  have answers {id : LoaderId} {name : ClassName} {found : ClassId}
      (answered : area.lookup? id name = some found) : later.lookup? id name = some found :=
    (adds.gains addable).answers answered
  rw [adds.answer] at answered
  split at answered
  next here =>
    rcases here with ⟨rfl, rfl⟩
    cases answered
    rcases addable.home shape with ⟨element, there, same⟩
    exact ⟨element, answers there, same⟩
  next =>
    rcases homed shape answered with ⟨element, there, same⟩
    exact ⟨element, answers there, same⟩

end Adds

theorem Awaiting.keep (awaiting : area.Awaiting) (gains : area.Gains later)
    (linking : ∀ {id name}, name ∈ later.linking id → name ∈ area.linking id)
    (unanswered : ∀ {id name}, name ∈ later.linking id → later.lookup? id name = none) :
    later.Awaiting :=
  fun id _ marked => ⟨unanswered marked,
    (awaiting (linking marked)).2.keep (.single gains) (gains.parent id)⟩

theorem Adds.awaiting (adds : area.Adds later id name found)
    (addable : area.Addable id name found) (awaiting : area.Awaiting) : later.Awaiting := by
  refine awaiting.keep (adds.gains addable) (fun {other _} marked => ?_)
    fun {other sought} marked => ?_ <;> rw [adds.frame.linking] at marked
  · exact marked
  rw [adds.answer, if_neg]
  · exact (awaiting marked).1
  · rintro ⟨rfl, rfl⟩
    exact addable.unmarked marked

end

theorem SameViews.homed (same : area.SameViews later) (homed : area.Homed) : later.Homed := by
  intro id name component found shape answered
  rw [same.answer] at answered
  rw [same.answer]
  exact homed shape answered

/-! ## Loads that leave refusals behind -/

/-- A loader that can be asked in an area in which the two facts hold. -/
structure Poised (area : Area ι) (id : LoaderId) : Prop extends area.Callable id where
  awaiting : area.Awaiting
  homed : area.Homed

/-- What has come of a request: answers were added one after the other, and if the
request has failed then it is refused from then on. -/
structure Lasting (before : Area ι) (goal : Goal) (outcome : Except Fault α × Area ι) : Prop where
  accrues : before.Accrues outcome.2
  awaiting : outcome.2.Awaiting
  homed : outcome.2.Homed
  refused : ∀ {cause}, outcome.1 = .error (.error cause) → outcome.2.Refuses goal cause

/-- Loading the name through the loader leaves a refusal behind if it fails, as long
as fewer definitions than the given number are without a mark. -/
def Lasts (ι : Type) (budget : Nat) (id : LoaderId) (name : ClassName) : Prop :=
  ∀ {area : Area ι}, area.Poised id → area.unlinkedCount < budget →
    Lasting area (.load (area.linking id) id name) ((load id name).outcome area)

theorem Poised.above {id parent : LoaderId} (poised : area.Poised id)
    (below : area.parent? id = some parent) : area.Poised parent :=
  { poised.toCallable.above below with awaiting := poised.awaiting, homed := poised.homed }

theorem Poised.boot {id : LoaderId} (poised : area.Poised id) : area.Poised .bootstrap :=
  { poised.toCallable.boot with awaiting := poised.awaiting, homed := poised.homed }

/-- What is being linked stays without an answer in the names that a request carries. -/
theorem Awaiting.pending (awaiting : area.Awaiting) (id : LoaderId) :
    ∀ mark ∈ area.linking id, area.lookup? id mark = none :=
  fun _ marked => (awaiting marked).1

namespace Lasting

variable {goal : Goal} {id : LoaderId} {name : ClassName}

theorem ok (poised : area.Poised id) (value : α) :
    Lasting area goal (.ok value, area) where
  accrues := .refl
  awaiting := poised.awaiting
  homed := poised.homed
  refused := by
    rintro _ ⟨⟩

theorem error (poised : area.Poised id) {cause : RuntimeError}
    (refused : area.Refuses goal cause) :
    Lasting (α := α) area goal (.error (.error cause), area) where
  accrues := .refl
  awaiting := poised.awaiting
  homed := poised.homed
  refused := by
    rintro _ ⟨⟩
    exact refused

/-- What has come of a request goes for another one that ends in the same area, if
that one is refused where it fails. -/
theorem restate {β : Type} {other : Goal} {outcome : Except Fault α × Area ι}
    {otherOutcome : Except Fault β × Area ι} (lasting : Lasting before goal outcome)
    (same : otherOutcome.2 = outcome.2)
    (refused : ∀ {cause}, otherOutcome.1 = .error (.error cause) →
      outcome.2.Refuses other cause) : Lasting before other otherOutcome where
  accrues := same ▸ lasting.accrues
  awaiting := same ▸ lasting.awaiting
  homed := same ▸ lasting.homed
  refused failed := same ▸ refused failed

/-- What has come of the second of two requests has come of both. -/
theorem following {outcome : Except Fault α × Area ι} (lasting : Lasting middle goal outcome)
    (accrues : before.Accrues middle) : Lasting before goal outcome where
  accrues := accrues.trans lasting.accrues
  awaiting := lasting.awaiting
  homed := lasting.homed
  refused := lasting.refused

/-- What comes after a request can start where the request has ended. -/
theorem poised {bound : LoaderId} {post : α → Area ι → Prop}
    {outcome : Except Fault α × Area ι} (lasting : Lasting before goal outcome)
    (safe : Safe bound post before outcome) (callable : before.Callable id) :
    outcome.2.Poised id where
  fine := safe.wellFormed
  known := by
    rw [safe.grows.frame.isSome]
    exact callable.known
  calm lower := by
    rw [safe.grows.frame.linking]
    exact callable.calm lower
  awaiting := lasting.awaiting
  homed := lasting.homed

/-- An answer that may be added keeps the two facts. -/
theorem add {found : ClassId} (adds : area.Adds later id name found)
    (addable : area.Addable id name found) (awaiting : area.Awaiting) (homed : area.Homed)
    (goal : Goal) (value : α) : Lasting area goal (.ok value, later) where
  accrues := .single (adds.gains addable)
  awaiting := adds.awaiting addable awaiting
  homed := adds.homed addable homed
  refused := by
    rintro _ ⟨⟩

theorem settle {outcome : Except Fault ClassId × Area ι} (lasting : Lasting before goal outcome)
    (known : (outcome.2.loader? id).isSome)
    (addable : ∀ {found}, outcome.1 = .ok found → outcome.2.Addable id name found) :
    Lasting before goal (Area.settle id name outcome) := by
  rcases outcome with ⟨fault | found, after⟩
  · exact lasting
  · rcases Option.isSome_iff_exists.1 known with ⟨loader, present⟩
    have adds := adds_answer present name found
    exact (add adds (addable rfl) lasting.awaiting lasting.homed goal found).following
      lasting.accrues

end Lasting

/-! ## Meeting demands -/

section

variable {budget : Nat} {id : LoaderId} {name : ClassName} {found : ClassId}

theorem safe_meet (demands : List Demand) (owner : ClassName) (fine : area.WellFormed)
    (known : (area.loader? id).isSome) :
    Safe id (fun classes after => List.Forall₂ (after.Meets id) demands classes) area
      ((meet (load id) owner demands).outcome area) := by
  induction demands generalizing area with
  | nil => exact Safe.pure fine .nil
  | cons first rest inductiveStep =>
    refine (safe_load first.name fine known).bind fun found middle fineNow grown answered => ?_
    rcases fineNow.answered answered with ⟨_, type, typed, _⟩
    rcases class?_of_type? typed with ⟨loaded, place, rfl⟩
    rw [Action.outcome_bind, outcome_getClass, loadedClass_eq_ok place]
    by_cases fits : first.Fits loaded.kind
    · simp only [if_pos fits]
      rw [← grown.frame.isSome] at known
      refine (inductiveStep fineNow known).bind fun others last fineLast grownLast met => ?_
      have meets : middle.Meets id first found := ⟨answered, _, typed, fits⟩
      exact Safe.pure fineLast (.cons (meets.grow grownLast.type grownLast.answers) met)
    · simp only [if_neg fits, Action.outcome_fail]
      exact Safe.fail fineNow _

theorem lasting_meet {demands : List Demand} (each : ∀ demand ∈ demands,
    Lasts ι budget id demand.name) (owner : ClassName) (home : LoaderId) (poised : area.Poised id)
    (enough : area.unlinkedCount < budget) :
    Lasting area (.meet (area.linking id) id owner home demands)
      ((meet (load id) owner demands).outcome area) := by
  induction demands generalizing area with
  | nil => exact Lasting.ok poised _
  | cons first rest inductiveStep =>
    rcases List.forall_mem_cons.1 each with ⟨lasts, others⟩
    have safe := safe_load first.name poised.fine poised.known
    have lasting := lasts poised enough
    have poisedNow := lasting.poised safe poised.toCallable
    rcases ended : (load id first.name).outcome area with ⟨fault | found, middle⟩
    · rw [outcome_meet_failed ended]
      rw [ended] at lasting
      refine lasting.restate rfl ?_
      rintro cause ⟨⟩
      exact .failed (lasting.refused rfl)
    · rw [ended] at safe lasting poisedNow
      have answered : middle.lookup? id first.name = some found := safe.result _ rfl
      rcases safe.wellFormed.answered answered with ⟨_, type, typed, _⟩
      rcases class?_of_type? typed with ⟨loaded, place, rfl⟩
      by_cases fits : first.Fits loaded.kind
      · have frame : area.SameFrame middle := safe.grows.frame
        have further := inductiveStep others poisedNow (by rwa [unlinkedCount_eq frame])
        rw [frame.linking] at further
        have meets : middle.Meets id first found := ⟨answered, _, typed, fits⟩
        rw [outcome_meet_next ended place fits, Action.outcome_bind]
        rcases endedRest : (meet (load id) owner rest).outcome middle with ⟨fault | classes, last⟩
          <;> rw [endedRest] at further
        · refine (further.following lasting.accrues).restate rfl ?_
          rintro cause ⟨⟩
          exact .next (further.accrues.meets meets) (further.refused rfl)
        · refine (further.following lasting.accrues).restate rfl ?_
          rintro cause ⟨⟩
      · rw [outcome_meet_unfit ended place fits]
        refine lasting.restate rfl ?_
        rintro cause ⟨⟩
        exact .unfit answered typed fits

/-! ## Defining -/

theorem Poised.mark (poised : area.Poised id) (ordinary : ¬ name.isArray)
    (unanswered : area.lookup? id name = none) (missed : area.Missed id name) :
    (area.updateLoader id fun loader => loader.mark name).Poised id := by
  have same := sameViews_relink area id (fun loader => loader.mark name) fun _ => rfl
  rcases Option.isSome_iff_exists.1 poised.known with ⟨loader, present⟩
  refine { poised.toCallable.mark ordinary unanswered with awaiting := ?_, homed := ?_ }
  · intro other sought marked
    have kept (missed : area.Missed other sought) :
        (area.updateLoader id fun loader => loader.mark name).Missed other sought :=
      missed.keep (.single same.gains) (same.parent other)
    rw [same.answer]
    rw [linking_updateLoader present] at marked
    split at marked
    next here =>
      subst here
      rcases List.mem_cons.1 marked with rfl | earlier
      · exact ⟨unanswered, kept missed⟩
      · rw [← linking_eq present] at earlier
        exact ⟨(poised.awaiting earlier).1, kept (poised.awaiting earlier).2⟩
    next => exact ⟨(poised.awaiting marked).1, kept (poised.awaiting marked).2⟩
  · exact same.homed poised.homed

/-- The parent refuses the name with one error, which is that it does not find it. -/
theorem Missed.cause (missed : area.Missed id name) (callable : area.Callable id)
    {parent : LoaderId} {cause : RuntimeError} (below : area.parent? id = some parent)
    (refused : area.Refuses (.load [] parent name) cause) :
    ∃ missing, cause = .classNotFound missing := by
  rcases missed parent below with ⟨missing, first⟩
  rw [← callable.linking_above below] at first refused
  exact ⟨missing, first.unique refused (callable.above below)⟩

/-- Once the demands of a definition have been dealt with, its mark is taken off. -/
structure Unmarked (area last : Area ι) (id : LoaderId) (name : ClassName) : Prop where
  accrues : area.Accrues last
  poised : last.Poised id
  linking : ∀ other, last.linking other = area.linking other
  pending : ∀ mark ∈ name :: area.linking id, last.lookup? id mark = none

theorem Lasting.unmark {goal : Goal} {post : α → Area ι → Prop}
    {outcome : Except Fault α × Area ι} (poised : area.Poised id) (ordinary : ¬ name.isArray)
    (unanswered : area.lookup? id name = none) (missed : area.Missed id name)
    (safe : Safe id post (area.updateLoader id fun loader => loader.mark name) outcome)
    (lasting : Lasting (area.updateLoader id fun loader => loader.mark name) goal outcome) :
    area.Unmarked (outcome.2.updateLoader id fun loader => loader.unmark name) id name := by
  rcases Option.isSome_iff_exists.1 poised.known with ⟨loader, present⟩
  have marked := poised.mark ordinary unanswered missed
  have begun := sameViews_relink area id (fun loader => loader.mark name) fun _ => rfl
  have done := sameViews_relink outcome.2 id (fun loader => loader.unmark name) fun _ => rfl
  have grown := grows_unmark safe.grows
  have linking := grown.frame.linking
  rcases Option.isSome_iff_exists.1 (lasting.poised safe marked.toCallable).known with
    ⟨later, there⟩
  -- A mark that is left was there all the time.
  have stays {other : LoaderId} {sought : ClassName} (member : sought ∈
      (outcome.2.updateLoader id fun loader => loader.unmark name).linking other) :
      sought ∈ outcome.2.linking other := by
    rw [linking] at member
    rw [safe.grows.frame.linking, linking_updateLoader present]
    split
    next here =>
      subst here
      rw [linking_eq present] at member
      exact List.mem_cons_of_mem _ member
    next => exact member
  constructor
  · exact .head begun.gains (lasting.accrues.tail done.gains)
  · refine ⟨⟨safe.wellFormed.unmark there name, ?_, fun {lower} below => ?_⟩, ?_,
      done.homed lasting.homed⟩
    · rw [grown.frame.isSome]
      exact poised.known
    · rw [linking]
      exact poised.calm below
    · refine lasting.awaiting.keep done.gains stays fun member => ?_
      rw [done.answer]
      exact (lasting.awaiting (stays member)).1
  · exact linking
  · intro mark member
    rw [done.answer]
    apply lasting.awaiting.pending id mark
    rwa [safe.grows.frame.linking, linking_mark present]

/-- A definition can be answered by its loader once its mark is off and its demands are
met. -/
theorem Unmarked.addable {last : Area ι} (unmarked : area.Unmarked last id name)
    (ordinary : ¬ name.isArray) (first : name ∉ area.linking id) (missed : last.Missed id name)
    {definition : ClassDefinition ι} (defined : last.definition? id name = some definition)
    {classes : List ClassId} (met : List.Forall₂ (last.Meets id) definition.demands classes)
    (found : ClassId) : last.Addable id name found where
  attainable :=
    .declared ordinary (fun _ _ => missed.cause unmarked.poised.toCallable) defined met
  kept answered := by
    rw [unmarked.pending name List.mem_cons_self] at answered
    cases answered
  unmarked := by
    rw [unmarked.linking]
    exact first
  home shape := absurd (ClassName.isArray_of_component? shape) ordinary

theorem lasting_define (each : ∀ name, Lasts ι budget id name) (ordinary : ¬ name.isArray)
    (poised : area.Poised id) (unanswered : area.lookup? id name = none)
    (missed : area.Missed id name) (enough : area.unlinkedCount < budget + 1) :
    Lasting area (.define (area.linking id) id name) ((define load id name).outcome area) := by
  rcases Option.isSome_iff_exists.1 poised.known with ⟨loader, present⟩
  cases defined : area.definition? id name with
  | none =>
    rw [outcome_define_undefined present unanswered defined]
    exact Lasting.error poised (.undefined unanswered defined)
  | some definition =>
    by_cases circular : name ∈ area.linking id
    · rw [outcome_define_circular present unanswered defined circular]
      exact Lasting.error poised (.circular unanswered defined circular)
    have marked := poised.mark ordinary unanswered missed
    have limited := Nat.lt_of_lt_of_le (unlinkedCount_mark defined circular)
      (Nat.le_of_lt_succ enough)
    have lasts (demand : Demand) (_ : demand ∈ definition.demands) :
        Lasts ι budget id demand.name :=
      each demand.name
    have lasting := lasting_meet lasts definition.name id marked limited
    have safe := safe_meet definition.demands definition.name marked.fine marked.known
    have unmarked := lasting.unmark poised ordinary unanswered missed safe
    have linked := outcome_link marked.fine marked.known loader.source definition
    rw [Action.outcome_bind] at linked
    rcases ended : (meet (load id) definition.name definition.demands).outcome
      (area.updateLoader id fun loader => loader.mark name) with ⟨result, middle⟩
    rw [ended] at lasting safe linked unmarked
    have done := sameViews_relink middle id (fun loader => loader.unmark name) fun _ => rfl
    have grown := grows_unmark safe.grows
    have definedLast := (grown.frame.definition? id name).trans defined
    cases result with
    | error fault =>
      rw [outcome_define_unlinked present unanswered defined circular linked]
      refine ⟨unmarked.accrues, unmarked.poised.awaiting, unmarked.poised.homed, ?_⟩
      rintro cause ⟨⟩
      have refused := lasting.refused rfl
      rw [linking_mark present name] at refused
      exact .unlinked (unmarked.pending name List.mem_cons_self) definedLast circular
        (refused.keep done.gains unmarked.pending)
    | ok classes =>
      rcases grown.frame.known present with ⟨later, kept, _⟩
      rw [outcome_define_linked present unanswered defined circular linked kept]
      have met : List.Forall₂ (middle.Meets id) definition.demands classes :=
        safe.result classes rfl
      have metLast := met.imp fun _ _ meets => done.meets meets
      have assembled : (middle.updateLoader id fun loader => loader.unmark name).Assembled
          ⟨id, later.classes.size⟩ (described definition loader.source classes) := by
        refine fun _ => ⟨definition, loader.source, classes, ?_, ?_, metLast, rfl⟩
        · exact (congrArg _ (poised.fine.keyed defined)).trans definedLast
        · rw [grown.frame.samePlan.source, source?, present]
          rfl
      have adds := adds_placed kept name
        (.fresh (described definition loader.source classes) definition.initializer) assembled
      have addable := unmarked.addable ordinary circular
        (missed.keep unmarked.accrues (grown.frame.parent? id)) definedLast metLast
        ⟨id, later.classes.size⟩
      exact (Lasting.add adds addable unmarked.poised.awaiting unmarked.poised.homed _ _).following
        unmarked.accrues

/-! ## Asking parents first -/

/-- The definition of a name that is being linked is not linked again. -/
theorem Poised.refuses_marked (poised : area.Poised id) (marked : name ∈ area.linking id) :
    ∃ cause, area.Refuses (.load (area.linking id) id name) cause := by
  rcases poised.awaiting marked with ⟨unanswered, missed⟩
  have ordinary := (poised.fine.marked marked).1
  have own : ∃ cause, area.Refuses (.define (area.linking id) id name) cause := by
    cases defined : area.definition? id name with
    | none => exact ⟨_, .undefined unanswered defined⟩
    | some definition => exact ⟨_, .circular unanswered defined marked⟩
  rcases own with ⟨cause, own⟩
  cases below : area.parent? id with
  | none => exact ⟨cause, .top ordinary below own⟩
  | some parent =>
    rcases missed parent below with ⟨missing, refused⟩
    exact ⟨cause, .shadowed ordinary below refused own⟩

/-- A loader can go on answering what it answers. -/
theorem addable_again (answered : area.lookup? id name = some found)
    (ordinary : ¬ name.isArray) (unmarked : name ∉ area.linking id) :
    area.Addable id name found where
  attainable := .answered answered
  kept again := Option.some.inj (again.symm.trans answered)
  unmarked := unmarked
  home shape := absurd (ClassName.isArray_of_component? shape) ordinary

/-- What has come of a request that the loader has met by a definition of its own. -/
theorem lasting_own {goal : Goal} (each : ∀ name, Lasts ι budget id name)
    (ordinary : ¬ name.isArray) (poised : area.Poised id)
    (unanswered : area.lookup? id name = none) (unmarked : name ∉ area.linking id)
    (missed : area.Missed id name) (enough : area.unlinkedCount < budget + 1)
    (refused : ∀ {later cause}, area.Accrues later → later.parent? id = area.parent? id →
      later.Refuses (.define (area.linking id) id name) cause → later.Refuses goal cause) :
    Lasting area goal (settle id name ((define load id name).outcome area)) := by
  have safe := safe_define (safeLoad_load budget) ordinary poised.fine poised.known enough
  have own := lasting_define each ordinary poised unanswered missed enough
  have last := own.poised safe poised.toCallable
  refine (own.restate rfl fun failed => ?_).settle last.known fun ended =>
    addable_again (safe.result _ ended) ordinary ?_
  · exact refused own.accrues (safe.grows.frame.parent? id) (own.refused failed)
  · rw [safe.grows.frame.linking]
    exact unmarked

theorem lasting_orDefine {parent : LoaderId} {answer : Except Fault ClassId}
    (each : ∀ name, Lasts ι budget id name) (ordinary : ¬ name.isArray)
    (poised : before.Poised id) (unanswered : before.lookup? id name = none)
    (unmarked : name ∉ before.linking id) (below : before.parent? id = some parent)
    (enough : before.unlinkedCount < budget + 1)
    (asked : Safe parent (fun found after => after.lookup? parent name = some found) before
      (answer, area))
    (inner : Lasting before (.load [] parent name) (answer, area)) :
    Lasting before (.load (before.linking id) id name)
      (settle id name ((orDefine load id name answer).outcome area)) := by
  have frame : before.SameFrame area := asked.grows.frame
  have middle : area.Poised id := inner.poised asked poised.toCallable
  have unansweredStill : area.lookup? id name = none := by
    rw [lookup?, asked.grows.above (poised.fine.descending below)]
    exact unanswered
  have belowStill : area.parent? id = some parent := (frame.parent? id).trans below
  have unmarkedStill : name ∉ area.linking id := by
    rw [frame.linking]
    exact unmarked
  cases answer with
  | ok found =>
    refine (inner.restate rfl ?_).settle middle.known ?_
    · rintro _ ⟨⟩
    · rintro _ ⟨⟩
      refine ⟨.inherited ordinary belowStill (asked.result _ rfl), fun {_} again => ?_,
        unmarkedStill, fun shape => absurd (ClassName.isArray_of_component? shape) ordinary⟩
      cases unansweredStill.symm.trans again
  | error fault =>
    rcases asked.cause _ rfl with ⟨cause, rfl⟩
    have refused : area.Refuses (.load [] parent name) cause := inner.refused rfl
    by_cases notFound : ∃ missing, cause = .classNotFound missing
    · rcases notFound with ⟨missing, rfl⟩
      have missed : area.Missed id name := by
        intro other belowOther
        rw [belowStill] at belowOther
        cases belowOther
        exact ⟨missing, refused⟩
      have enoughStill : area.unlinkedCount < budget + 1 := by
        rwa [unlinkedCount_eq frame]
      have own : Lasting area (.load (before.linking id) id name)
          (settle id name ((define load id name).outcome area)) := by
        refine lasting_own each ordinary middle unansweredStill unmarkedStill missed enoughStill
          fun accrues same failed => ?_
        rw [frame.linking] at failed
        exact .shadowed ordinary (same.trans belowStill) (accrues.refuses refused) failed
      exact own.following inner.accrues
    · have passed : (orDefine load id name (.error (.error cause))).outcome area =
          (.error (.error cause), area) := by
        cases cause with
        | classNotFound missing => exact absurd ⟨missing, rfl⟩ notFound
        | _ => rfl
      rw [passed]
      refine (inner.restate rfl ?_).settle middle.known ?_
      · rintro _ ⟨⟩
        exact .passed unansweredStill ordinary belowStill refused
          fun missing same => notFound ⟨missing, same⟩
      · rintro _ ⟨⟩

theorem lasts_ordinary (each : ∀ id name, Lasts ι budget id name) (ordinary : ¬ name.isArray)
    (id : LoaderId) : Lasts ι (budget + 1) id name := by
  intro area poised enough
  by_cases marked : name ∈ area.linking id
  · rcases poised.refuses_marked marked with ⟨cause, refused⟩
    rw [refused.outcome_load poised.toCallable]
    exact Lasting.error poised refused
  cases answered : area.lookup? id name with
  | some found =>
    rw [outcome_load_answered answered]
    exact Lasting.ok poised found
  | none =>
    cases below : area.parent? id with
    | none =>
      have missed : area.Missed id name := by
        intro parent above
        rw [below] at above
        cases above
      rw [outcome_load_top poised.fine poised.known answered ordinary below]
      refine lasting_own (each id) ordinary poised answered marked missed enough
        fun _ same failed => ?_
      exact .top ordinary (same.trans below) failed
    | some parent =>
      have lower := poised.fine.descending below
      have above := poised.above below
      have inner := lasts_ordinary each ordinary parent above enough
      rw [poised.linking_above below] at inner
      rw [outcome_load_parent poised.fine answered ordinary below]
      exact lasting_orDefine (each id) ordinary poised answered marked below enough
        (safe_load name above.fine above.known) inner
termination_by id.index

/-! ## Arrays -/

/-- An array is without an answer where one of the classes is missing on which it rests. -/
theorem Poised.unanswered_array (poised : area.Poised id) {component : ClassName}
    (shape : name.component? = some component)
    (missing : area.lookup? id component = none ∨ ∀ classes,
      ¬ List.Forall₂ (area.Meets .bootstrap) Demand.basics classes) :
    area.lookup? id name = none := by
  rw [Option.eq_none_iff_forall_ne_some]
  intro found answered
  rcases missing with unanswered | unmet
  · rcases poised.homed shape answered with ⟨element, there, _⟩
    rw [unanswered] at there
    cases there
  · rcases poised.fine.answered answered with ⟨_, type, typed, rfl⟩
    have meets (demand : Demand) (basic : demand ∈ Demand.basics) :
        ∃ other, area.Meets .bootstrap demand other := by
      rcases poised.fine.basics typed (ClassName.isArray_of_component? shape) basic with
        ⟨other, there, _⟩
      rcases poised.fine.answered there with ⟨_, type, typed, _⟩
      exact ⟨other, there, type, typed, Demand.fits_basic basic _⟩
    rcases meets ⟨none, .object⟩ (by simp [Demand.basics]) with ⟨root, isRoot⟩
    rcases meets ⟨none, .cloneable⟩ (by simp [Demand.basics]) with ⟨cloneable, isCloneable⟩
    rcases meets ⟨none, .serializable⟩ (by simp [Demand.basics]) with
      ⟨serializable, isSerializable⟩
    exact unmet [root, cloneable, serializable]
      (.cons isRoot (.cons isCloneable (.cons isSerializable .nil)))

/-- What a loader answers to an array is what the home of its component answers. -/
theorem Poised.at_home (poised : area.Poised id) {component : ClassName} {element : ClassId}
    (shape : name.component? = some component) (there : area.lookup? id component = some element)
    (answered : area.lookup? id name = some found) :
    area.lookup? element.loader name = some found := by
  rcases poised.homed shape answered with ⟨again, same, home⟩
  rw [there] at same
  cases same
  rcases poised.fine.answered answered with ⟨_, type, typed, rfl⟩
  rw [← home]
  exact poised.fine.recorded typed

/-- An array that lives with its component can be answered where the component is. -/
theorem addable_array {component : ClassName} {element : ClassId} {classes : List ClassId}
    (shape : name.component? = some component) (answered : area.lookup? id component = some element)
    (met : List.Forall₂ (area.Meets .bootstrap) Demand.basics classes)
    (home : found.loader = element.loader) (unmarked : name ∉ area.linking id)
    (kept : ∀ {other}, area.lookup? id name = some other → other = found) :
    area.Addable id name found where
  attainable := .array shape answered met
  kept := kept
  unmarked := unmarked
  home shapeAgain := by
    rw [shape] at shapeAgain
    cases shapeAgain
    exact ⟨element, answered, home⟩

/-- Once its basic classes are there, an array is made or found where its component
lives, and can be answered there and by the asked loader. -/
theorem lasting_keepArray (goal : Goal) {component : ClassName} {element : ClassId}
    {classes : List ClassId} (type : TypeDescriptor) (poised : area.Poised id)
    (named : type.name = name) (shape : name.component? = some component)
    (answered : area.lookup? id component = some element)
    (met : List.Forall₂ (area.Meets .bootstrap) Demand.basics classes) :
    Lasting area goal (settle id name ((keepArray name element type).outcome area)) := by
  have array := ClassName.isArray_of_component? shape
  have unmarked (other : LoaderId) : name ∉ area.linking other :=
    fun marked => (poised.fine.marked marked).1 array
  rcases poised.fine.answered answered with ⟨_, elementType, typed, namedElement⟩
  have recorded := poised.fine.recorded typed
  rw [namedElement] at recorded
  rcases WellFormed.class_known typed with ⟨loader, _, present, _, _⟩
  cases known : area.lookup? element.loader name with
  | some found =>
    have home : found.loader = element.loader := by
      rcases poised.homed shape known with ⟨again, there, home⟩
      rw [recorded] at there
      cases there
      exact home
    rw [outcome_keepArray_known present known]
    refine (Lasting.ok poised found).settle poised.known ?_
    rintro _ ⟨⟩
    refine addable_array shape answered met home (unmarked id) fun {other} again => ?_
    exact Option.some.inj ((poised.at_home shape answered again).symm.trans known)
  | none =>
    rw [outcome_keepArray_new present known]
    have adds := adds_placed present name (.fresh type none)
      fun ordinary => absurd (named ▸ array) ordinary
    have addable : area.Addable element.loader name ⟨element.loader, loader.classes.size⟩ := by
      refine addable_array shape recorded met rfl (unmarked _) fun {other} again => ?_
      cases known.symm.trans again
    have gains := adds.gains addable
    refine (Lasting.add adds addable poised.awaiting poised.homed goal _).settle ?_ ?_
    · rw [adds.frame.isSome]
      exact poised.known
    rintro _ ⟨⟩
    have metStill := met.imp fun _ _ => gains.meets
    refine addable_array shape (gains.answers answered) metStill rfl ?_ fun {other} again => ?_
    · rw [adds.frame.linking]
      exact unmarked id
    · rw [adds.answer] at again
      split at again
      next => exact (Option.some.inj again).symm
      next => cases known.symm.trans (poised.at_home shape answered again)

theorem lasting_joinArray {component : ClassName} {element : ClassId}
    (ordinary : ∀ name, ¬ name.isArray → Lasts ι budget .bootstrap name) (poised : area.Poised id)
    (enough : area.unlinkedCount < budget) (shape : name.component? = some component)
    (answered : area.lookup? id component = some element) :
    Lasting area (.load (area.linking id) id name)
      (settle id name ((joinArray load name element).outcome area)) := by
  have basic (demand : Demand) (listed : demand ∈ Demand.basics) :
      Lasts ι budget .bootstrap demand.name := by
    apply ordinary
    simp only [Demand.basics, List.mem_cons, List.not_mem_nil, or_false] at listed
    rcases listed with rfl | rfl | rfl <;> decide
  rcases poised.fine.answered answered with ⟨_, type, typed, _⟩
  rcases class?_of_type? typed with ⟨loaded, place, _⟩
  have lasting := lasting_meet basic name element.loader poised.boot enough
  have safe := safe_meet Demand.basics name poised.fine poised.fine.rooted
  have last := lasting.poised safe poised.toCallable
  rw [poised.toCallable.linking_boot] at lasting
  rw [outcome_joinArray poised.fine place, Action.outcome_bind]
  rcases ended : (meet (load .bootstrap) name Demand.basics).outcome area with
    ⟨fault | classes, after⟩ <;> rw [ended] at lasting safe last
  · have answeredStill : after.lookup? id component = some element := safe.grows.answers answered
    refine Lasting.settle (lasting.restate rfl ?_) last.known ?_
    · rintro cause ⟨⟩
      have refused := lasting.refused rfl
      exact .basics (last.unanswered_array shape (.inr refused.not_met))
        (ClassName.isArray_of_component? shape) shape answeredStill refused
    · rintro _ ⟨⟩
  · have kept := lasting_keepArray (.load (area.linking id) id name)
      (arrayType name element loaded.toTypeDescriptor (classes.headD default) classes.tail)
      last rfl shape (safe.grows.answers answered) (safe.result _ rfl)
    exact kept.following lasting.accrues

theorem lasts_any (ordinary : ∀ id name, ¬ name.isArray → Lasts ι budget id name)
    (id : LoaderId) (name : ClassName) : Lasts ι budget id name := by
  intro area poised enough
  by_cases array : name.isArray
  · cases answered : area.lookup? id name with
    | some found =>
      rw [outcome_load_answered answered]
      exact Lasting.ok poised found
    | none =>
      cases shape : name.component? with
      | none =>
        rw [outcome_load_malformed poised.fine poised.known answered array shape]
        exact Lasting.error poised (.malformed answered array shape)
      | some component =>
        have smaller := ClassName.nesting_component? shape
        have inner := lasts_any ordinary id component poised enough
        have safe := safe_load component poised.fine poised.known
        have middle := inner.poised safe poised.toCallable
        rw [outcome_load_array poised.fine poised.known answered array shape, Action.outcome_bind]
        rcases ended : (load id component).outcome area with ⟨fault | element, after⟩
          <;> rw [ended] at inner safe middle
        · refine (inner.restate rfl ?_).settle middle.known ?_
          · rintro cause ⟨⟩
            have refused := inner.refused rfl
            exact .component (middle.unanswered_array shape (.inl refused.unanswered)) array shape
              refused
          · rintro _ ⟨⟩
        · have further := lasting_joinArray (ordinary .bootstrap) middle
            (by rwa [unlinkedCount_eq safe.grows.frame]) shape (safe.result _ rfl)
          rw [safe.grows.frame.linking] at further
          exact further.following inner.accrues
  · exact ordinary id name array poised enough
termination_by name.nesting

theorem lasts (budget : Nat) (id : LoaderId) (name : ClassName) : Lasts ι budget id name := by
  induction budget generalizing id name with
  | zero => exact fun _ enough => absurd enough (Nat.not_lt_zero _)
  | succ budget inductiveStep =>
    exact lasts_any (fun id name ordinary => lasts_ordinary inductiveStep ordinary id) id name

theorem lasting_load (name : ClassName) (poised : area.Poised id) :
    Lasting area (.load (area.linking id) id name) ((load id name).outcome area) :=
  lasts _ id name poised (Nat.lt_succ_self _)

/-! ## Areas at rest -/

/-- An area between loads. -/
structure Rested (area : Area ι) : Prop where
  fine : area.WellFormed
  unlinked : ∀ id, area.linking id = []
  homed : area.Homed

theorem Rested.poised (rested : area.Rested) (known : (area.loader? id).isSome) :
    area.Poised id where
  fine := rested.fine
  known := known
  calm _ := rested.unlinked _
  awaiting other sought marked := by
    rw [rested.unlinked] at marked
    cases marked
  homed := rested.homed

theorem rested_initial (definitions : List (ClassDefinition ι)) : (initial definitions).Rested where
  fine := wellFormed_initial definitions
  unlinked := linking_initial definitions
  homed id name component found shape answered := by
    rcases lookup?_initial answered with ⟨_, _, primitive, _, rfl, _⟩
    exact absurd (ClassName.isArray_of_component? shape)
      (ClassName.not_isArray_of_isPrimitive (ClassName.isPrimitive_keyword primitive))

theorem Rested.load (rested : area.Rested) (id : LoaderId) (name : ClassName) :
    ((Area.load id name).outcome area).2.Rested := by
  cases present : area.loader? id with
  | none =>
    rw [outcome_load_unknown present]
    exact rested
  | some loader =>
    have poised := rested.poised (Option.isSome_iff_exists.2 ⟨loader, present⟩)
    have safe := safe_load name poised.fine poised.known
    refine ⟨safe.wellFormed, fun other => ?_, (lasting_load name poised).homed⟩
    rw [safe.grows.frame.linking]
    exact rested.unlinked other

theorem Step.rested (step : before.Step after) (rested : before.Rested) : after.Rested := by
  rcases step.load_or_idle with ⟨id, name, rfl⟩ | idle
  · exact rested.load id name
  · refine ⟨step.wellFormed rested.fine, fun other => ?_, ?_⟩
    · rw [idle.linking]
      exact rested.unlinked other
    · intro other sought component found shape answered
      rw [idle.answer] at answered
      rw [idle.answer]
      exact rested.homed shape answered

theorem Reachable.rested (reachable : area.Reachable) : area.Rested := by
  rcases reachable_iff_later.1 reachable with ⟨definitions, later⟩
  induction later with
  | refl => exact rested_initial definitions
  | tail earlier step inductiveStep =>
    exact step.rested (inductiveStep (reachable_iff_later.2 ⟨definitions, earlier⟩))

/-- A load that has failed leaves the name without an answer and fails in the same
way when it is made again, without any change. -/
theorem Rested.load_again (rested : area.Rested) {cause : RuntimeError}
    (failed : (Area.load id name).outcome area = (.error (.error cause), after)) :
    after.lookup? id name = none ∧
      (Area.load id name).outcome after = (.error (.error cause), after) := by
  have poised : area.Poised id :=
    rested.poised (isSome_of_load_error (congrArg Prod.fst failed))
  have safe := safe_load name poised.fine poised.known
  have lasting := lasting_load name poised
  have last := lasting.poised safe poised.toCallable
  rw [failed] at lasting safe last
  have refused : after.Refuses (.load (area.linking id) id name) cause := lasting.refused rfl
  rw [← safe.grows.frame.linking] at refused
  exact ⟨refused.unanswered, refused.outcome_load last.toCallable⟩

end

end Area
end ClassRuntime

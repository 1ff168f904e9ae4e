import ClassRuntime.Proofs.Loader.Faithful
import ClassRuntime.Proofs.Loader.Recursion

namespace ClassRuntime
namespace Area

/-!
# Refusals

A request is refused if it fails on what is there already: every class that it
gets on its way has been answered before.  A refused request therefore fails
without any change, and the same request made once more is refused again.

A refusal outlasts other loads.  An answer is only added where it could be
attained, which means that the parent or the component has it already, or that
all demands of the definition have been met, after the parent has failed to
find the class.  Nothing of that kind is refused, with one exception: a
definition is also refused while it is being linked.  Its name is then without
an answer, and so the exception does no harm as long as that remains so.
-/

variable {ι : Type} {area now later : Area ι}

/-- A request fails with an error and finds all classes on its way. -/
inductive Refuses (area : Area ι) : Goal → RuntimeError → Prop
  | malformed {marks : List ClassName} {id : LoaderId} {name : ClassName} :
      area.lookup? id name = none → name.isArray → name.component? = none →
        Refuses area (.load marks id name) (.classNotFound name)
  | component {marks : List ClassName} {id : LoaderId} {name component : ClassName}
      {cause : RuntimeError} : area.lookup? id name = none → name.isArray →
        name.component? = some component → Refuses area (.load marks id component) cause →
          Refuses area (.load marks id name) cause
  | basics {marks : List ClassName} {id : LoaderId} {name component : ClassName}
      {element : ClassId} {cause : RuntimeError} : area.lookup? id name = none → name.isArray →
        name.component? = some component → area.lookup? id component = some element →
        Refuses area (.meet (if id = .bootstrap then marks else []) .bootstrap name
          element.loader Demand.basics) cause →
          Refuses area (.load marks id name) cause
  | top {marks : List ClassName} {id : LoaderId} {name : ClassName} {cause : RuntimeError} :
      ¬ name.isArray → area.parent? id = none → Refuses area (.define marks id name) cause →
        Refuses area (.load marks id name) cause
  | passed {marks : List ClassName} {id parent : LoaderId} {name : ClassName}
      {cause : RuntimeError} : area.lookup? id name = none → ¬ name.isArray →
        area.parent? id = some parent → Refuses area (.load [] parent name) cause →
        (∀ missing, cause ≠ .classNotFound missing) → Refuses area (.load marks id name) cause
  | shadowed {marks : List ClassName} {id parent : LoaderId} {name missing : ClassName}
      {cause : RuntimeError} : ¬ name.isArray → area.parent? id = some parent →
        Refuses area (.load [] parent name) (.classNotFound missing) →
        Refuses area (.define marks id name) cause → Refuses area (.load marks id name) cause
  | undefined {marks : List ClassName} {id : LoaderId} {name : ClassName} :
      area.lookup? id name = none → area.definition? id name = none →
        Refuses area (.define marks id name) (.classNotFound name)
  | circular {marks : List ClassName} {id : LoaderId} {name : ClassName}
      {definition : ClassDefinition ι} : area.lookup? id name = none →
        area.definition? id name = some definition → name ∈ marks →
          Refuses area (.define marks id name) (.classCircularity name)
  | unlinked {marks : List ClassName} {id : LoaderId} {name : ClassName}
      {definition : ClassDefinition ι} {cause : RuntimeError} : area.lookup? id name = none →
        area.definition? id name = some definition → name ∉ marks →
        Refuses area (.meet (name :: marks) id definition.name id definition.demands) cause →
          Refuses area (.define marks id name) cause
  | failed {marks : List ClassName} {id home : LoaderId} {owner : ClassName} {first : Demand}
      {rest : List Demand} {cause : RuntimeError} :
      Refuses area (.load marks id first.name) cause →
        Refuses area (.meet marks id owner home (first :: rest)) cause
  | unfit {marks : List ClassName} {id home : LoaderId} {owner : ClassName} {first : Demand}
      {rest : List Demand} {found : ClassId} {type : TypeDescriptor} :
      area.lookup? id first.name = some found → area.type? found = some type →
        ¬ first.Fits type.kind → Refuses area (.meet marks id owner home (first :: rest))
          (.incompatibleClassChange owner first.name)
  | next {marks : List ClassName} {id home : LoaderId} {owner : ClassName} {first : Demand}
      {rest : List Demand} {found : ClassId} {cause : RuntimeError} :
      area.Meets id first found → Refuses area (.meet marks id owner home rest) cause →
        Refuses area (.meet marks id owner home (first :: rest)) cause

/-- What a loader answers or can be made to answer at once. -/
inductive Attainable (area : Area ι) (id : LoaderId) (name : ClassName) : Prop
  | answered {found : ClassId} : area.lookup? id name = some found → Attainable area id name
  | inherited {parent : LoaderId} {found : ClassId} : ¬ name.isArray →
      area.parent? id = some parent → area.lookup? parent name = some found →
        Attainable area id name
  | declared {definition : ClassDefinition ι} {classes : List ClassId} : ¬ name.isArray →
      (∀ parent cause, area.parent? id = some parent →
        area.Refuses (.load [] parent name) cause → ∃ missing, cause = .classNotFound missing) →
      area.definition? id name = some definition →
      List.Forall₂ (area.Meets id) definition.demands classes → Attainable area id name
  | array {component : ClassName} {element : ClassId} {classes : List ClassId} :
      name.component? = some component → area.lookup? id component = some element →
      List.Forall₂ (area.Meets .bootstrap) Demand.basics classes → Attainable area id name

/-! ## What is refused cannot be attained -/

section

variable {marks : List ClassName} {id : LoaderId} {name : ClassName} {cause : RuntimeError}

theorem Refuses.unanswered_of_define (refused : area.Refuses (.define marks id name) cause) :
    area.lookup? id name = none := by
  cases refused with
  | undefined unanswered => exact unanswered
  | circular unanswered => exact unanswered
  | unlinked unanswered => exact unanswered

theorem Refuses.unanswered (refused : area.Refuses (.load marks id name) cause) :
    area.lookup? id name = none := by
  cases refused with
  | malformed unanswered => exact unanswered
  | component unanswered => exact unanswered
  | basics unanswered => exact unanswered
  | top _ _ own => exact own.unanswered_of_define
  | passed unanswered => exact unanswered
  | shadowed _ _ _ own => exact own.unanswered_of_define

theorem Refuses.not_met {owner : ClassName} {home : LoaderId} {demands : List Demand}
    (refused : area.Refuses (.meet marks id owner home demands) cause) (classes : List ClassId) :
    ¬ List.Forall₂ (area.Meets id) demands classes := by
  intro met
  induction met with
  | nil => cases refused
  | cons head _ inductiveStep =>
    rcases head with ⟨answered, type, typed, fits⟩
    cases refused with
    | failed inner =>
      rw [inner.unanswered] at answered
      cases answered
    | unfit answeredAgain typedAgain unfit =>
      rw [answered] at answeredAgain
      cases answeredAgain
      rw [typed] at typedAgain
      cases typedAgain
      exact unfit fits
    | next _ rest => exact inductiveStep rest

/-- A definition whose demands are met is refused only while it is being linked. -/
theorem Refuses.marked_of_met (refused : area.Refuses (.define marks id name) cause)
    {definition : ClassDefinition ι} {classes : List ClassId}
    (defined : area.definition? id name = some definition)
    (met : List.Forall₂ (area.Meets id) definition.demands classes) : name ∈ marks := by
  cases refused with
  | undefined _ none =>
    rw [none] at defined
    cases defined
  | circular _ _ marked => exact marked
  | unlinked _ definedAgain _ inner =>
    rw [defined] at definedAgain
    cases definedAgain
    exact absurd met (inner.not_met classes)

/-- A loader refuses a name by itself, after its parent has not found it, or passes on
another error of the parent. -/
theorem Refuses.of_ordinary (ordinary : ¬ name.isArray)
    (refused : area.Refuses (.load marks id name) cause) :
    (area.Refuses (.define marks id name) cause ∧ ∀ parent, area.parent? id = some parent →
      ∃ missing, area.Refuses (.load [] parent name) (.classNotFound missing)) ∨
    ∃ parent, area.parent? id = some parent ∧ area.Refuses (.load [] parent name) cause ∧
      ∀ missing, cause ≠ .classNotFound missing := by
  cases refused with
  | malformed _ array => exact absurd array ordinary
  | component _ array => exact absurd array ordinary
  | basics _ array => exact absurd array ordinary
  | top _ none own =>
    refine Or.inl ⟨own, fun parent below => ?_⟩
    rw [none] at below
    cases below
  | passed _ _ below inner other => exact Or.inr ⟨_, below, inner, other⟩
  | shadowed _ below inner own =>
    refine Or.inl ⟨own, fun parent belowAgain => ?_⟩
    rw [below] at belowAgain
    cases belowAgain
    exact ⟨_, inner⟩

/-- An array is refused with its component or with the classes on which arrays rest. -/
theorem Refuses.of_array {component : ClassName} (shape : name.component? = some component)
    (refused : area.Refuses (.load marks id name) cause) :
    area.Refuses (.load marks id component) cause ∨ ∃ others home,
      area.Refuses (.meet others .bootstrap name home Demand.basics) cause := by
  have array := ClassName.isArray_of_component? shape
  cases refused with
  | malformed _ _ ill =>
    rw [ill] at shape
    cases shape
  | component _ _ shapeAgain inner =>
    rw [shape] at shapeAgain
    cases shapeAgain
    exact Or.inl inner
  | basics _ _ _ _ inner => exact Or.inr ⟨_, _, inner⟩
  | top ordinary => exact absurd array ordinary
  | passed _ ordinary => exact absurd array ordinary
  | shadowed ordinary => exact absurd array ordinary

theorem Refuses.marked_of_attainable (refused : area.Refuses (.load marks id name) cause)
    (attainable : area.Attainable id name) : name ∈ marks := by
  cases attainable with
  | answered answered =>
    rw [refused.unanswered] at answered
    cases answered
  | @inherited parent _ ordinary below answered =>
    have above : ∃ reason, area.Refuses (.load [] parent name) reason := by
      rcases refused.of_ordinary ordinary with ⟨_, missed⟩ | ⟨other, belowOther, inner, _⟩
      · rcases missed parent below with ⟨missing, inner⟩
        exact ⟨_, inner⟩
      · rw [below] at belowOther
        cases belowOther
        exact ⟨_, inner⟩
    rcases above with ⟨_, inner⟩
    rw [inner.unanswered] at answered
    cases answered
  | declared ordinary missed defined met =>
    rcases refused.of_ordinary ordinary with ⟨own, _⟩ | ⟨parent, below, inner, other⟩
    · exact own.marked_of_met defined met
    · rcases missed _ _ below inner with ⟨missing, same⟩
      exact absurd same (other missing)
  | array shape answered met =>
    rcases refused.of_array shape with inner | ⟨_, _, inner⟩
    · rw [inner.unanswered] at answered
      cases answered
    · exact absurd met (inner.not_met _)

end

/-! ## A refusal lasts -/

/-- A class with a definition is what becomes of the definition with the classes that
its loader answers to the demands. -/
def Assembled (area : Area ι) (id : ClassId) (type : TypeDescriptor) : Prop :=
  ¬ type.name.isArray → ∃ definition source classes,
    area.definition? id.loader type.name = some definition ∧
      area.source? id.loader = some source ∧
      List.Forall₂ (area.Meets id.loader) definition.demands classes ∧
      type = described definition source classes

/-- The later area answers all that the earlier one does, and nothing besides but
what could be attained at once.  A class that is new has been assembled. -/
structure Gains (area later : Area ι) : Prop extends area.SamePlan later where
  type : ∀ {id type}, area.type? id = some type → later.type? id = some type
  answers : ∀ {id name found}, area.lookup? id name = some found →
    later.lookup? id name = some found
  attained : ∀ {id name found}, later.lookup? id name = some found → area.Attainable id name
  made : ∀ {id type}, later.type? id = some type →
    area.type? id = some type ∨ area.Assembled id type

theorem Gains.meets (gains : area.Gains later) {id : LoaderId} {demand : Demand}
    {found : ClassId} (meets : area.Meets id demand found) : later.Meets id demand found :=
  meets.grow gains.type gains.answers

theorem Gains.assembled (gains : area.Gains later) {id : ClassId} {type : TypeDescriptor}
    (assembled : area.Assembled id type) : later.Assembled id type := by
  intro ordinary
  rcases assembled ordinary with ⟨definition, source, classes, defined, home, met, same⟩
  exact ⟨definition, source, classes, (gains.definition _ _).trans defined,
    (gains.source _).trans home, met.imp fun _ _ => gains.meets, same⟩

/-- The names that are being linked on behalf of the request have no answers. -/
def Goal.Pending (area : Area ι) : Goal → Prop
  | .load marks id _ => ∀ mark ∈ marks, area.lookup? id mark = none
  | .orDefine marks id name _ => ∀ mark ∈ name :: marks, area.lookup? id mark = none
  | .define marks id name => ∀ mark ∈ name :: marks, area.lookup? id mark = none
  | .meet marks id _ _ _ => ∀ mark ∈ marks, area.lookup? id mark = none

theorem Refuses.keep {goal : Goal} {cause : RuntimeError} (refused : area.Refuses goal cause)
    (gains : area.Gains later) (pending : goal.Pending later) : later.Refuses goal cause := by
  have still {marks : List ClassName} {id : LoaderId} {name : ClassName} {cause : RuntimeError}
      (refused : area.Refuses (.load marks id name) cause)
      (pending : (Goal.load marks id name).Pending later) : later.lookup? id name = none := by
    rw [Option.eq_none_iff_forall_ne_some]
    intro found answered
    have marked := refused.marked_of_attainable (gains.attained answered)
    rw [pending name marked] at answered
    cases answered
  have none {id : LoaderId} : ∀ mark ∈ [], later.lookup? id mark = none := by simp
  induction refused with
  | malformed unanswered array ill =>
    exact .malformed (still (.malformed unanswered array ill) pending) array ill
  | component unanswered array shape inner inductiveStep =>
    exact .component (still (.component unanswered array shape inner) pending) array shape
      (inductiveStep pending)
  | @basics marks id name component element cause unanswered array shape answered inner
      inductiveStep =>
    refine .basics (still (.basics unanswered array shape answered inner) pending) array shape
      (gains.answers answered) (inductiveStep ?_)
    split
    next boot =>
      subst boot
      exact pending
    next => exact none
  | top ordinary top own inductiveStep =>
    have unanswered := still (.top ordinary top own) pending
    exact .top ordinary ((gains.parent _).trans top)
      (inductiveStep (List.forall_mem_cons.2 ⟨unanswered, pending⟩))
  | passed unanswered ordinary below inner other inductiveStep =>
    exact .passed (still (.passed unanswered ordinary below inner other) pending) ordinary
      ((gains.parent _).trans below) (inductiveStep none) other
  | shadowed ordinary below inner own innerStep ownStep =>
    have unanswered := still (.shadowed ordinary below inner own) pending
    exact .shadowed ordinary ((gains.parent _).trans below) (innerStep none)
      (ownStep (List.forall_mem_cons.2 ⟨unanswered, pending⟩))
  | undefined _ undefined =>
    exact .undefined (pending _ List.mem_cons_self) ((gains.definition _ _).trans undefined)
  | circular _ defined marked =>
    exact .circular (pending _ List.mem_cons_self) ((gains.definition _ _).trans defined) marked
  | unlinked _ defined unmarked _ inductiveStep =>
    exact .unlinked (pending _ List.mem_cons_self) ((gains.definition _ _).trans defined) unmarked
      (inductiveStep pending)
  | failed _ inductiveStep => exact .failed (inductiveStep pending)
  | unfit answered typed unfit => exact .unfit (gains.answers answered) (gains.type typed) unfit
  | next meets _ inductiveStep => exact .next (gains.meets meets) (inductiveStep pending)

/-- The later area comes about by gains one after the other. -/
def Accrues : Area ι → Area ι → Prop :=
  Relation.ReflTransGen Gains

theorem Accrues.meets (accrues : area.Accrues later) {id : LoaderId} {demand : Demand}
    {found : ClassId} (meets : area.Meets id demand found) : later.Meets id demand found := by
  induction accrues with
  | refl => exact meets
  | tail _ gains inductiveStep => exact gains.meets inductiveStep

theorem Accrues.made (accrues : area.Accrues later) {id : ClassId} {type : TypeDescriptor}
    (typed : later.type? id = some type) :
    area.type? id = some type ∨ later.Assembled id type := by
  induction accrues with
  | refl => exact Or.inl typed
  | tail _ gains inductiveStep =>
    rcases gains.made typed with earlier | assembled
    · exact (inductiveStep earlier).imp_right gains.assembled
    · exact Or.inr (gains.assembled assembled)

/-- A loader that is not linking anything refuses a name for good. -/
theorem Accrues.refuses (accrues : area.Accrues later) {id : LoaderId} {name : ClassName}
    {cause : RuntimeError} (refused : area.Refuses (.load [] id name) cause) :
    later.Refuses (.load [] id name) cause := by
  induction accrues with
  | refl => exact refused
  | tail _ gains inductiveStep => exact inductiveStep.keep gains (by simp [Goal.Pending])

/-! ## A refused request fails without any change -/

/-- The two areas differ at most in what is being linked. -/
structure SameViews (area now : Area ι) : Prop extends area.SamePlan now where
  type : ∀ id, now.type? id = area.type? id
  answer : ∀ id name, now.lookup? id name = area.lookup? id name

theorem SameViews.refl (area : Area ι) : area.SameViews area :=
  ⟨⟨fun _ => rfl, fun _ _ => rfl, fun _ => rfl⟩, fun _ => rfl, fun _ _ => rfl⟩

theorem SameViews.trans {last : Area ι} (first : area.SameViews now) (second : now.SameViews last) :
    area.SameViews last where
  toSamePlan := first.toSamePlan.trans second.toSamePlan
  type id := (second.type id).trans (first.type id)
  answer id name := (second.answer id name).trans (first.answer id name)

theorem sameViews_relink (area : Area ι) (id : LoaderId) (change : Loader ι → Loader ι)
    (kept : ∀ loader, change loader = { loader with linking := (change loader).linking }) :
    area.SameViews (area.updateLoader id change) where
  toSamePlan := samePlan_relink change kept area
  type := type?_updateLoader change (fun loader => by rw [kept]) area
  answer := lookup?_updateLoader change (fun loader => by rw [kept]) area

theorem SameViews.meets (same : area.SameViews now) {id : LoaderId} {demand : Demand}
    {found : ClassId} (meets : area.Meets id demand found) : now.Meets id demand found :=
  meets.grow (fun {_ _} typed => (same.type _).trans typed)
    fun {_ _ _} answered => (same.answer _ _).trans answered

/-- To take a mark off at once is to leave the area as it was. -/
theorem unmark_mark (area : Area ι) (id : LoaderId) (name : ClassName) :
    (area.updateLoader id fun loader => loader.mark name).updateLoader id
      (fun loader => loader.unmark name) = area := by
  have undone (loader : Loader ι) : (loader.mark name).unmark name = loader := by
    cases loader
    simp [Loader.mark, Loader.unmark]
  apply ext_loader?
  intro other
  rw [loader?_updateLoader, loader?_updateLoader]
  split
  next =>
    rw [Option.map_map]
    simp only [Function.comp_def, undone, Option.map_id']
  next => rfl

/-- The request ends with the error and leaves the area as it is. -/
def Goal.Fails (now : Area ι) (cause : RuntimeError) : Goal → Prop
  | .load marks id name => now.Callable id → now.linking id = marks →
      (Area.load id name).outcome now = (.error (.error cause), now)
  | .orDefine _ _ _ _ => True
  | .define marks id name => now.Callable id → now.linking id = marks → ¬ name.isArray →
      (Area.define Area.load id name).outcome now = (.error (.error cause), now)
  | .meet marks id owner _ demands => now.Callable id → now.linking id = marks →
      (Area.meet (Area.load id) owner demands).outcome now = (.error (.error cause), now)

theorem Refuses.fails {goal : Goal} {cause : RuntimeError} (refused : area.Refuses goal cause)
    (same : area.SameViews now) : goal.Fails now cause := by
  induction refused generalizing now with
  | malformed unanswered array ill =>
    intro callable _
    rw [← same.answer] at unanswered
    exact outcome_load_malformed callable.fine callable.known unanswered array ill
  | component unanswered array shape _ inductiveStep =>
    intro callable linking
    rw [← same.answer] at unanswered
    have inner := inductiveStep same callable linking
    rw [outcome_load_array callable.fine callable.known unanswered array shape,
      Action.outcome_bind, inner]
    rfl
  | @basics _ id name component element _ unanswered array shape answered _ inductiveStep =>
    intro callable linking
    rw [← same.answer] at unanswered answered
    rcases callable.fine.answered answered with ⟨_, type, typed, _⟩
    rcases class?_of_type? typed with ⟨loaded, place, _⟩
    have inner := inductiveStep same callable.boot (linking ▸ callable.linking_boot)
    rw [outcome_load_array callable.fine callable.known unanswered array shape,
      Action.outcome_bind, outcome_load_answered answered]
    simp only
    rw [outcome_joinArray callable.fine place, Action.outcome_bind, inner]
    rfl
  | top ordinary top own inductiveStep =>
    intro callable linking
    have unanswered := own.unanswered_of_define
    rw [← same.answer] at unanswered
    rw [← same.parent] at top
    have inner := inductiveStep same callable linking ordinary
    rw [outcome_load_top callable.fine callable.known unanswered ordinary top, inner]
    rfl
  | @passed _ _ _ _ cause unanswered ordinary below _ other inductiveStep =>
    intro callable linking
    rw [← same.answer] at unanswered
    rw [← same.parent] at below
    have inner := inductiveStep same (callable.above below) (callable.linking_above below)
    rw [outcome_load_parent callable.fine unanswered ordinary below, inner]
    cases cause with
    | classNotFound missing => exact absurd rfl (other missing)
    | _ => rfl
  | shadowed ordinary below _ own innerStep ownStep =>
    intro callable linking
    have unanswered := own.unanswered_of_define
    rw [← same.answer] at unanswered
    rw [← same.parent] at below
    have inner := innerStep same (callable.above below) (callable.linking_above below)
    have defining := ownStep same callable linking ordinary
    rw [outcome_load_parent callable.fine unanswered ordinary below, inner]
    simp only [orDefine]
    rw [defining]
    rfl
  | undefined unanswered undefined =>
    intro callable _ _
    rw [← same.answer] at unanswered
    rw [← same.definition] at undefined
    rcases Option.isSome_iff_exists.1 callable.known with ⟨loader, present⟩
    exact outcome_define_undefined present unanswered undefined
  | circular unanswered defined marked =>
    intro callable linking _
    rw [← same.answer] at unanswered
    rw [← same.definition] at defined
    rw [← linking] at marked
    rcases Option.isSome_iff_exists.1 callable.known with ⟨loader, present⟩
    exact outcome_define_circular present unanswered defined marked
  | @unlinked marks id name definition _ unanswered defined unmarked _ inductiveStep =>
    intro callable linking ordinary
    rw [← same.answer] at unanswered
    rw [← same.definition] at defined
    rw [← linking] at unmarked
    rcases Option.isSome_iff_exists.1 callable.known with ⟨loader, present⟩
    have marked := callable.mark ordinary unanswered
    have inner := inductiveStep
      (same.trans (sameViews_relink now id (fun loader => loader.mark name) fun _ => rfl)) marked
      ((linking_mark present name).trans (congrArg _ linking))
    rw [outcome_define_unlinked present unanswered defined unmarked, unmark_mark]
    rw [outcome_link marked.fine marked.known, Action.outcome_bind, inner]
  | failed _ inductiveStep =>
    intro callable linking
    exact outcome_meet_failed (inductiveStep same callable linking)
  | unfit answered typed unfit =>
    intro callable _
    rw [← same.answer] at answered
    rw [← same.type] at typed
    rcases class?_of_type? typed with ⟨loaded, place, rfl⟩
    exact outcome_meet_unfit (outcome_load_answered answered) place unfit
  | next meets _ inductiveStep =>
    intro callable linking
    have inner := inductiveStep same callable linking
    rcases same.meets meets with ⟨answered, type, typed, fits⟩
    rcases class?_of_type? typed with ⟨loaded, place, rfl⟩
    rw [outcome_meet_next (outcome_load_answered answered) place fits, Action.outcome_bind, inner]

/-- A refused request fails, and nothing else changes. -/
theorem Refuses.outcome_load {id : LoaderId} {name : ClassName} {cause : RuntimeError}
    (refused : area.Refuses (.load (area.linking id) id name) cause)
    (callable : area.Callable id) :
    (load id name).outcome area = (.error (.error cause), area) :=
  refused.fails (.refl area) callable rfl

/-- There is one error with which a loader refuses a name. -/
theorem Refuses.unique {id : LoaderId} {name : ClassName} {cause other : RuntimeError}
    (refused : area.Refuses (.load (area.linking id) id name) cause)
    (again : area.Refuses (.load (area.linking id) id name) other)
    (callable : area.Callable id) : other = cause := by
  have ended := refused.outcome_load callable
  rw [again.outcome_load callable] at ended
  cases ended
  rfl

end Area
end ClassRuntime

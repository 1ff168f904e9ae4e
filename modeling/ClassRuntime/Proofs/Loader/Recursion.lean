import ClassRuntime.Proofs.Loader.Resolution
import ClassRuntime.Proofs.Loader.Retention
import ClassRuntime.Proofs.Loader.Termination

namespace ClassRuntime

/-!
# Loading in terms of itself

The limits of a load make no difference, so in a well-formed area a load is what
one step makes of further loads.  This gives one equation for each way that a
load can go, and none of them mentions a limit.

A definition and an array need other classes, one after the other.  Linking and
the making of arrays are therefore told by their demands, so that what is said
of demands need be said once.
-/

/-- A class of the kind meets the demand. -/
def Demand.Fits (demand : Demand) (kind : Kind) : Prop :=
  ∀ required ∈ demand.kind, kind = required

instance (demand : Demand) (kind : Kind) : Decidable (demand.Fits kind) :=
  inferInstanceAs (Decidable (∀ required ∈ demand.kind, kind = required))

theorem Demand.fits_superclass {name : ClassName} {kind : Kind} :
    (Demand.superclass name).Fits kind ↔ kind = .ordinary := by
  simp [Demand.Fits, Demand.superclass]

theorem Demand.fits_interface {name : ClassName} {kind : Kind} :
    (Demand.interface name).Fits kind ↔ kind = .interface := by
  simp [Demand.Fits, Demand.interface]

theorem Demand.fits_basic {demand : Demand} (basic : demand ∈ Demand.basics) (kind : Kind) :
    demand.Fits kind := by
  simp only [Demand.basics, List.mem_cons, List.not_mem_nil, or_false] at basic
  rcases basic with rfl | rfl | rfl <;> simp [Demand.Fits]

namespace Area

open ClassRuntime.Action

variable {ι : Type} {area after : Area ι} {id : LoaderId} {loader : Loader ι} {name : ClassName}

/-! ## One step of a load -/

theorem safeLoad_load (budget : Nat) : SafeLoad budget (load : Load ι) :=
  fun name fine known _ => safe_load name fine known

theorem reachedLoad_load (budget : Nat) : ReachedLoad budget (load : Load ι) := by
  intro area id name fine known _
  have limited : (load id name).outcome area =
      (loadNested (area.definitionCount + 1) id name).outcome area := by
    rw [load, Action.outcome_bind, Action.outcome_get]
  rcases reached_loadNested _ name fine known
    (Nat.lt_succ_of_le (unlinkedCount_le_definitionCount area)) with ⟨levels, same⟩
  exact ⟨levels, fun more deep => (same more deep).trans limited.symm⟩

private theorem reaches_joinArray (fine : area.WellFormed) (name : ClassName)
    (component : ClassId) :
    Approaches (fun levels => joinArray (unrolled levels) name component)
      (joinArray load name component) area := by
  have loads {area : Area ι} (basic : ClassName) (fine : area.WellFormed) :
      Approaches (fun levels => unrolled levels .bootstrap basic) (load .bootstrap basic) area :=
    reachedLoad_load _ basic fine fine.rooted (Nat.lt_succ_self _)
  have onward {area after : Area ι} {basic : ClassName} {found : ClassId}
      (fine : area.WellFormed) (ended : (load .bootstrap basic).outcome area = (.ok found, after)) :
      after.WellFormed := by
    have safe := safe_load basic fine fine.rooted
    rw [ended] at safe
    exact safe.wellFormed
  refine (Approaches.const (getClass component) area).bind fun element first looked => ?_
  rw [eq_of_getClass looked]
  refine (loads .object fine).bind fun root second ended => ?_
  have fineSecond := onward fine ended
  refine (loads .cloneable fineSecond).bind fun cloneable third endedSecond => ?_
  have fineThird := onward fineSecond endedSecond
  exact (loads .serializable fineThird).bind fun serializable last _ => .const _ last

private theorem reaches_seek (fine : area.WellFormed) (known : area.loader? id = some loader)
    (name : ClassName) :
    Approaches (fun levels => seek (unrolled levels) id loader.parent name)
      (seek load id loader.parent name) area := by
  have there := Option.isSome_iff_exists.2 ⟨loader, known⟩
  have limited := Nat.lt_succ_self area.unlinkedCount
  have reached : ReachedLoad area.unlinkedCount (load : Load ι) := reachedLoad_load _
  have safe : SafeLoad area.unlinkedCount (load : Load ι) := safeLoad_load _
  unfold seek
  split
  · split
    · exact .const _ area
    next componentName shape =>
      refine (reachedLoad_load _ componentName fine there limited).bind
        fun component after ended => ?_
      have loaded := safe_load componentName fine there
      rw [ended] at loaded
      exact reaches_joinArray loaded.wellFormed name component
  next ordinary =>
    have parent := parent?_eq known
    generalize loader.parent = parent? at parent
    cases parent? with
    | none => exact reaches_define reached safe ordinary fine there limited
    | some above =>
      have thereAbove := fine.parent_known parent
      refine (reachedLoad_load _ name fine thereAbove limited).attempt.bind
        fun answer after ended => ?_
      rw [Action.outcome_attempt, Prod.mk.injEq] at ended
      rcases (safe_load name fine thereAbove).onward ended.2 there limited with
        ⟨fineAfter, thereAfter, limitedAfter⟩
      exact reaches_orDefine reached safe ordinary answer fineAfter thereAfter limitedAfter

/-- A name without an answer is sought by means of loads. -/
theorem outcome_load_seek (fine : area.WellFormed) (known : area.loader? id = some loader)
    (unanswered : area.lookup? id name = none) :
    (load id name).outcome area =
      settle id name ((seek load id loader.parent name).outcome area) := by
  have there := Option.isSome_iff_exists.2 ⟨loader, known⟩
  rcases reachedLoad_load _ name fine there (Nat.lt_succ_self _) with ⟨enough, same⟩
  rcases reaches_seek fine known name with ⟨enoughOnce, sameOnce⟩
  have levels := same (max enough enoughOnce + 1) (by omega)
  rw [← levels, ← sameOnce (max enough enoughOnce) (Nat.le_max_right _ _)]
  exact outcome_loadStep_seek known unanswered

/-! ## The ways of a load -/

theorem outcome_load_malformed (fine : area.WellFormed) (known : (area.loader? id).isSome)
    (unanswered : area.lookup? id name = none) (array : name.isArray)
    (malformed : name.component? = none) :
    (load id name).outcome area = (.error (.error (.classNotFound name)), area) := by
  rcases Option.isSome_iff_exists.1 known with ⟨loader, present⟩
  rw [outcome_load_seek fine present unanswered]
  simp only [seek, if_pos array, malformed, Action.outcome_fail, settle]

theorem outcome_load_array (fine : area.WellFormed) (known : (area.loader? id).isSome)
    (unanswered : area.lookup? id name = none) (array : name.isArray) {componentName : ClassName}
    (shape : name.component? = some componentName) :
    (load id name).outcome area =
      settle id name ((load id componentName >>= joinArray load name).outcome area) := by
  rcases Option.isSome_iff_exists.1 known with ⟨loader, present⟩
  rw [outcome_load_seek fine present unanswered]
  simp only [seek, if_pos array, shape]

theorem outcome_load_top (fine : area.WellFormed) (known : (area.loader? id).isSome)
    (unanswered : area.lookup? id name = none) (ordinary : ¬ name.isArray)
    (top : area.parent? id = none) :
    (load id name).outcome area = settle id name ((define load id name).outcome area) := by
  rcases Option.isSome_iff_exists.1 known with ⟨loader, present⟩
  rw [parent?_eq present] at top
  rw [outcome_load_seek fine present unanswered]
  simp only [seek, if_neg ordinary, top]

theorem outcome_load_parent (fine : area.WellFormed) (unanswered : area.lookup? id name = none)
    (ordinary : ¬ name.isArray) {parent : LoaderId} (below : area.parent? id = some parent) :
    (load id name).outcome area =
      settle id name
        ((orDefine load id name ((load parent name).outcome area).1).outcome
          ((load parent name).outcome area).2) := by
  rcases loader?_of_parent? below with ⟨loader, present⟩
  rw [parent?_eq present] at below
  rw [outcome_load_seek fine present unanswered]
  simp only [seek, if_neg ordinary, below, Action.outcome_bind, Action.outcome_attempt]

/-! ## Demands -/

/-- Load what is demanded, one after the other. -/
def meet (load : ClassName → Action (Area ι) ClassId) (owner : ClassName) :
    List Demand → Action (Area ι) (List ClassId)
  | [] => pure []
  | demand :: rest => do
    let id ← load demand.name
    let inherited ← getClass id
    if demand.Fits inherited.kind then do
      let others ← meet load owner rest
      pure (id :: others)
    else Action.fail (.incompatibleClassChange owner demand.name)

/-- The descriptor of a definition whose demands are met by the given classes. -/
def described (definition : ClassDefinition ι) (source : Source) (classes : List ClassId) :
    TypeDescriptor where
  name := definition.name
  kind := definition.kind
  flags := definition.flags
  superclass := definition.inheritedName?.bind fun _ => classes.head?
  interfaces := classes.drop definition.inheritedName?.toList.length
  component := none
  source
  enclosure := definition.enclosure

theorem linkInterfaces_eq_meet (load : ClassName → Action (Area ι) ClassId)
    (definition : ClassDefinition ι) (names : List ClassName) :
    linkInterfaces load definition names =
      meet load definition.name (names.map Demand.interface) := by
  induction names with
  | nil => rfl
  | cons name rest inductiveStep =>
    simp only [linkInterfaces, List.map_cons, meet, inductiveStep, Demand.fits_interface]
    rfl

/-- To link a definition is to meet its demands, provided that a superclass goes by
the name under which it is loaded. -/
theorem outcome_link_of_named {load : ClassName → Action (Area ι) ClassId}
    {definition : ClassDefinition ι} (source : Source)
    (named : ∀ name ∈ definition.inheritedName?, ∀ found after,
      (load name).outcome area = (.ok found, after) →
        ∃ type, after.type? found = some type ∧ type.name = name) :
    (link load source definition).outcome area =
      (meet load definition.name definition.demands >>= fun classes =>
        pure (described definition source classes)).outcome area := by
  unfold link linkSuperclass ClassDefinition.demands described
  cases inherits : definition.inheritedName? with
  | none =>
    rw [linkInterfaces_eq_meet]
    rfl
  | some name =>
    have demanded : (Demand.superclass name).name = name := rfl
    simp only [Option.toList_some, List.map_cons, List.map_nil, List.cons_append, List.nil_append,
      meet, Action.outcome_bind, linkInterfaces_eq_meet, demanded]
    rcases ended : (load name).outcome area with ⟨fault | found, after⟩
    · rfl
    · rcases named name inherits found after ended with ⟨type, typed, same⟩
      rcases class?_of_type? typed with ⟨loaded, place, rfl⟩
      simp only [outcome_getClass, loadedClass_eq_ok place, Demand.fits_superclass]
      by_cases ordinary : loaded.kind = .ordinary
      · simp only [if_pos ordinary, Action.outcome_pure, Action.outcome_bind]
        rcases (meet load definition.name
          (definition.interfaces.map Demand.interface)).outcome after with ⟨fault | others, last⟩
        · rfl
        · rfl
      · simp only [if_neg ordinary, Action.outcome_fail, same]

theorem outcome_link (fine : area.WellFormed) (known : (area.loader? id).isSome) (source : Source)
    (definition : ClassDefinition ι) :
    (link (load id) source definition).outcome area =
      (meet (load id) definition.name definition.demands >>= fun classes =>
        pure (described definition source classes)).outcome area := by
  refine outcome_link_of_named source fun name _ found after ended => ?_
  have safe := safe_load name fine known
  rw [ended] at safe
  exact (safe.wellFormed.answered (safe.result found rfl)).2

section Meeting

variable {load : ClassName → Action (Area ι) ClassId} {owner : ClassName} {first : Demand}
  {rest : List Demand}

theorem outcome_meet_failed {fault : Fault}
    (failed : (load first.name).outcome area = (.error fault, after)) :
    (meet load owner (first :: rest)).outcome area = (.error fault, after) := by
  simp only [meet, Action.outcome_bind, failed]

theorem outcome_meet_unfit {found : ClassId} {loaded : LoadedClass ι}
    (ended : (load first.name).outcome area = (.ok found, after))
    (place : after.class? found = some loaded) (unfit : ¬ first.Fits loaded.kind) :
    (meet load owner (first :: rest)).outcome area =
      (.error (.error (.incompatibleClassChange owner first.name)), after) := by
  simp only [meet, Action.outcome_bind, ended, outcome_getClass, loadedClass_eq_ok place,
    if_neg unfit, Action.outcome_fail]

theorem outcome_meet_next {found : ClassId} {loaded : LoadedClass ι}
    (ended : (load first.name).outcome area = (.ok found, after))
    (place : after.class? found = some loaded) (fits : first.Fits loaded.kind) :
    (meet load owner (first :: rest)).outcome area =
      (meet load owner rest >>= fun others => pure (found :: others)).outcome after := by
  simp only [meet, Action.outcome_bind, ended, outcome_getClass, loadedClass_eq_ok place,
    if_pos fits]

end Meeting

/-- The loader answers the demanded name with a class of the right kind. -/
def Meets (area : Area ι) (id : LoaderId) (demand : Demand) (found : ClassId) : Prop :=
  area.lookup? id demand.name = some found ∧
    ∃ type, area.type? found = some type ∧ demand.Fits type.kind

theorem Meets.grow {demand : Demand} {found : ClassId}
    (types : ∀ {id type}, area.type? id = some type → after.type? id = some type)
    (answers : ∀ {id name found}, area.lookup? id name = some found →
      after.lookup? id name = some found)
    (meets : area.Meets id demand found) : after.Meets id demand found := by
  rcases meets with ⟨answered, type, typed, fits⟩
  exact ⟨answers answered, type, types typed, fits⟩

/-- Demands that are answered already are met without any change. -/
theorem outcome_meet_answered {demands : List Demand} {classes : List ClassId}
    (met : List.Forall₂ (area.Meets id) demands classes) (owner : ClassName) :
    (meet (load id) owner demands).outcome area = (.ok classes, area) := by
  induction met with
  | nil => rfl
  | cons head _ inductiveStep =>
    rcases head with ⟨answered, type, typed, fits⟩
    rcases class?_of_type? typed with ⟨loaded, place, rfl⟩
    have ended := outcome_load_answered answered
    rw [outcome_meet_next ended place fits]
    simp only [Action.outcome_bind, inductiveStep, Action.outcome_pure]

/-- Every class meets the demand for a basic class. -/
private theorem outcome_meet_basic {α : Type} (fine : area.WellFormed) {basic : Demand}
    (listed : basic ∈ Demand.basics) (owner : ClassName) (rest : List Demand)
    (next : List ClassId → Action (Area ι) α) :
    (meet (load .bootstrap) owner (basic :: rest) >>= next).outcome area =
      (load .bootstrap basic.name >>= fun found => meet (load .bootstrap) owner rest >>=
        fun others => next (found :: others)).outcome area := by
  have safe := safe_load basic.name fine fine.rooted
  rw [Action.outcome_bind, Action.outcome_bind _ _ area]
  rcases ended : (load .bootstrap basic.name).outcome area with ⟨fault | found, after⟩
  · rw [outcome_meet_failed ended]
  · rw [ended] at safe
    rcases safe.wellFormed.answered (safe.result _ rfl) with ⟨_, type, typed, _⟩
    rcases class?_of_type? typed with ⟨loaded, place, rfl⟩
    rw [outcome_meet_next ended place (Demand.fits_basic listed _)]
    simp only [Action.outcome_bind]
    rcases (meet (load .bootstrap) owner rest).outcome after with ⟨fault | others, last⟩ <;> rfl

/-- To make an array is to meet the demands of all arrays. -/
theorem outcome_joinArray (fine : area.WellFormed) {component : ClassId} {element : LoadedClass ι}
    (place : area.class? component = some element) (name : ClassName) :
    (joinArray load name component).outcome area =
      (meet (load .bootstrap) name Demand.basics >>= fun basics =>
        keepArray name component (arrayType name component element.toTypeDescriptor
          (basics.headD default) basics.tail)).outcome area := by
  have later {area after : Area ι} {basic : ClassName} {found : ClassId} (fine : area.WellFormed)
      (ended : (load .bootstrap basic).outcome area = (.ok found, after)) : after.WellFormed := by
    have safe := safe_load basic fine fine.rooted
    rw [ended] at safe
    exact safe.wellFormed
  rw [joinArray, Action.outcome_bind, outcome_getClass, loadedClass_eq_ok place, Demand.basics,
    outcome_meet_basic fine (by simp [Demand.basics])]
  simp only
  rw [Action.outcome_bind _ _ area, Action.outcome_bind _ _ area]
  rcases ended : (load .bootstrap .object).outcome area with ⟨fault | root, middle⟩
  · rfl
  · have fineMiddle := later fine ended
    simp only
    rw [outcome_meet_basic fineMiddle (by simp [Demand.basics]), Action.outcome_bind,
      Action.outcome_bind _ _ middle]
    rcases endedMiddle : (load .bootstrap .cloneable).outcome middle with ⟨fault | cloneable, last⟩
    · rfl
    · have fineLast := later fineMiddle endedMiddle
      simp only
      rw [outcome_meet_basic fineLast (by simp [Demand.basics])]
      rfl

end Area
end ClassRuntime

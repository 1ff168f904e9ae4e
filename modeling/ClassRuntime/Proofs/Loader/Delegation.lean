import ClassRuntime.Proofs.Loader.Recursion
import ClassRuntime.Proofs.Loader.Settled

namespace ClassRuntime

/-!
# Ancestors come first

If an ancestor of a loader finds a class, so does the loader, and it is the same
class, whatever the loader itself can define and whichever of the two was asked
first.  For arrays this takes an argument, since an array is not asked for at
the parent: its component is, in the end, and the array lives where the component
lives.

Only if the parent does not find a class does a loader's own definition count,
and then it alone decides.
-/

namespace Area

variable {ι : Type} {base area before after later other : Area ι}
  {id parent ancestor : LoaderId} {name : ClassName}

/-! ## Resolution -/

/-- What the parent finds is found by the child. -/
theorem Resolves.to_child {name : ClassName} {home : LoaderId}
    (below : base.parent? id = some parent)
    (resolved : base.Resolves (.load [] parent name) (.ok home)) :
    base.Resolves (.load [] id name) (.ok home) := by
  by_cases array : name.isArray
  · cases shape : name.component? with
    | none => cases resolved.of_malformed array shape
    | some component =>
      have shorter := ClassName.nesting_component? shape
      rcases resolved.of_array array shape with ⟨cause, _, impossible⟩ | ⟨place, found, met⟩
      · cases impossible
      · have inner := Resolves.to_child below found
        rw [ite_self] at met
        refine Resolves.array array shape inner ?_
        rw [ite_self]
        exact met
  · exact Resolves.parentFirst array below resolved Resolves.inherited
termination_by name.nesting

theorem Resolves.descend {home : LoaderId} (asked : base.Delegates id ancestor)
    (resolved : base.Resolves (.load [] ancestor name) (.ok home)) :
    base.Resolves (.load [] id name) (.ok home) := by
  induction asked using Relation.ReflTransGen.head_induction_on with
  | refl => exact resolved
  | head below _ inductiveStep => exact inductiveStep.to_child below

/-! ## The same class -/

/-- Two loads of one name that find classes of one loader find the same class. -/
theorem Accounted.same_class (accounted : before.Accounted) {first second : LoaderId}
    {found again : ClassId} (ended : ((load first name).outcome before).1 = .ok found)
    (onward : ((load first name).outcome before).2.Continues after)
    (endedAgain : ((load second name).outcome after).1 = .ok again)
    (home : found.loader = again.loader) : found = again := by
  have accountedAfter := onward.accounted (accounted.after_load first name)
  rcases (accounted.resolves_ok ended).2 with ⟨type, typed, named⟩
  rcases (accountedAfter.resolves_ok endedAgain).2 with ⟨other, typedOther, namedOther⟩
  have kept := (onward.retains.trans (retains_load second name after)).type typed
  exact (accountedAfter.after_load second name).fine.unique kept typedOther home
    (named.trans namedOther.symm)

/-- The ancestor is asked first. -/
theorem Accounted.load_after_ancestor (accounted : before.Accounted) {found : ClassId}
    (ended : ((load ancestor name).outcome before).1 = .ok found)
    (onward : ((load ancestor name).outcome before).2.Continues after)
    (known : (after.loader? id).isSome) (asked : after.Delegates id ancestor) :
    ((load id name).outcome after).1 = .ok found := by
  have accountedAfter := onward.accounted (accounted.after_load ancestor name)
  have matching := Continues.matching
    (Relation.ReflTransGen.head (proceeds_load accounted ancestor name) onward) accounted
  have resolved := (accounted.resolves_ok ended).1.transfer matching (isSome_of_load_ok ended)
  rcases accountedAfter.load_ok known (resolved.descend asked) with ⟨again, endedAgain, home⟩
  rw [endedAgain, accounted.same_class ended onward endedAgain home.symm]

/-- The loader is asked first. -/
theorem Accounted.load_before_ancestor (accounted : before.Accounted) {found : ClassId}
    (known : (before.loader? id).isSome) (asked : before.Delegates id ancestor)
    (onward : ((load id name).outcome before).2.Continues after)
    (ended : ((load ancestor name).outcome after).1 = .ok found) :
    ((load id name).outcome before).1 = .ok found := by
  have accountedAfter := onward.accounted (accounted.after_load id name)
  have whole : before.Continues after :=
    Relation.ReflTransGen.head (proceeds_load accounted id name) onward
  have matching := whole.matching accounted
  have resolved := (accountedAfter.resolves_ok ended).1.descend (whole.delegates accounted asked)
  have top := accountedAfter.memory.top accountedAfter.fine
  rcases accounted.load_spec known name with ⟨cause, _, failed⟩ | ⟨first, _, endedFirst, own, _⟩
  · cases resolved.unique top (failed.transfer matching known)
  · have home := Except.ok.inj (resolved.unique top (own.transfer matching known))
    rw [endedFirst, accounted.same_class endedFirst onward ended home]

/-! ## A loader's own definition -/

private theorem meets_interfaces {area : Area ι} {names : List ClassName} {found : List ClassId}
    (answered : List.Forall₂ (fun name other => area.lookup? id name = some other) names found)
    (kinds : ∀ other ∈ found, ∃ type, area.type? other = some type ∧ type.kind = .interface) :
    List.Forall₂ (area.Meets id) (names.map .interface) found := by
  induction answered with
  | nil => exact .nil
  | cons head _ inductiveStep =>
    rcases kinds _ List.mem_cons_self with ⟨type, typed, kind⟩
    exact .cons ⟨head, type, typed, Demand.fits_interface.2 kind⟩
      (inductiveStep fun other member => kinds other (List.mem_cons_of_mem _ member))

theorem Linked.inherits {found : ClassId} {type : TypeDescriptor} (linked : area.Linked found type)
    (ordinary : ¬ type.name.isArray) :
    (∀ other ∈ type.superclass, area.IsEarlier found .ordinary other) ∧
      ∀ other ∈ type.interfaces, area.IsEarlier found .interface other := by
  cases linked with
  | primitive =>
    constructor
    · rintro _ ⟨⟩
    · rintro _ ⟨⟩
  | array named => exact absurd (ClassName.isArray_of_component? named) ordinary
  | declared _ _ _ superclass interfaces => exact ⟨superclass, interfaces⟩

/-- A class meets the demands of its definition with the classes from which it
inherits. -/
theorem Built.met {found : ClassId} {type : TypeDescriptor} {definition : ClassDefinition ι}
    (built : base.Built area found type definition) (linked : area.Linked found type)
    (ordinary : ¬ type.name.isArray) :
    List.Forall₂ (area.Meets found.loader) definition.demands
      (type.superclass.toList ++ type.interfaces) := by
  rcases linked.inherits ordinary with ⟨extended, implemented⟩
  have interfaces := meets_interfaces built.interfaces fun other member =>
    (implemented other member).2
  have superclass := built.superclass
  rw [ClassDefinition.demands]
  generalize definition.inheritedName? = name? at superclass ⊢
  generalize type.superclass = super? at superclass extended ⊢
  cases superclass with
  | none => exact interfaces
  | some answered =>
    rcases extended _ rfl with ⟨_, inherited, typed, kind⟩
    exact .cons ⟨answered, inherited, typed, Demand.fits_superclass.2 kind⟩ interfaces

/-- Those classes make the descriptor what it is. -/
theorem Built.described {found : ClassId} {type : TypeDescriptor} {definition : ClassDefinition ι}
    (built : base.Built area found type definition) (named : type.name = definition.name) :
    described definition type.source (type.superclass.toList ++ type.interfaces) = type := by
  have superclass := built.superclass
  have kind := built.kind
  have flags := built.flags
  have enclosure := built.enclosure
  have component := built.component
  rcases type with ⟨name, ownKind, ownFlags, super?, interfaces, element, source, enclosing⟩
  simp only at named superclass kind flags enclosure component
  subst named kind flags enclosure component
  rw [Area.described]
  generalize definition.inheritedName? = name? at superclass ⊢
  cases superclass with
  | none => rfl
  | some => rfl

/-- Linking a definition again for which there is a class already makes its
descriptor, whatever has been marked or added in the meantime. -/
theorem Built.outcome_link {found : ClassId} {type : TypeDescriptor}
    {definition : ClassDefinition ι} (built : base.Built area found type definition)
    (fine : area.WellFormed) (typed : area.type? found = some type)
    (ordinary : ¬ type.name.isArray) (named : type.name = definition.name)
    (types : ∀ {id type}, area.type? id = some type → after.type? id = some type)
    (answers : ∀ {id name found}, area.lookup? id name = some found →
      after.lookup? id name = some found) :
    (link (load found.loader) type.source definition).outcome after = (.ok type, after) := by
  have met := (built.met (fine.linked typed) ordinary).imp fun _ _ met => met.grow types answers
  rw [outcome_link_of_named, Action.outcome_bind, outcome_meet_answered met]
  · simp only [built.described named, Action.outcome_pure]
  · intro name inherits other last ended
    have superclass := built.superclass
    rw [Option.mem_def.1 inherits] at superclass
    generalize type.superclass = super? at superclass
    cases superclass with
    | some answered =>
      rw [outcome_load_answered (answers answered)] at ended
      cases ended
      rcases (fine.answered answered).2 with ⟨inherited, typedInherited, same⟩
      exact ⟨inherited, types typedInherited, same⟩

/-- Link a loader's own definition of a name after the parent has been asked. -/
def linkOwn (area : Area ι) (id parent : LoaderId) (name : ClassName) (source : Source)
    (definition : ClassDefinition ι) : Except Fault TypeDescriptor :=
  ((link (load id) source definition).outcome
    (((load parent name).outcome area).2.updateLoader id fun loader => loader.mark name)).1

/-- A load through a loader ends as linking has ended: with a class of the loader that
has the descriptor, or with the same fault. -/
def EndsAs (id : LoaderId) (outcome : Except Fault ClassId × Area ι) :
    Except Fault TypeDescriptor → Prop
  | .ok type => ∃ found, outcome.1 = .ok found ∧ found.loader = id ∧
      outcome.2.type? found = some type
  | .error fault => outcome.1 = .error fault

/-- To define a class of which there is no answer yet ends as linking its definition does. -/
theorem WellFormed.endsAs_define (fine : area.WellFormed) {loader : Loader ι}
    (present : area.loader? id = some loader) (ordinary : ¬ name.isArray)
    (unanswered : area.lookup? id name = none) {definition : ClassDefinition ι}
    (defined : area.definition? id name = some definition) (unmarked : name ∉ area.linking id) :
    EndsAs id (settle id name ((define load id name).outcome area))
      ((link (load id) loader.source definition).outcome
        (area.updateLoader id fun loader => loader.mark name)).1 := by
  have fineMarked := fine.mark present ordinary unanswered
  have knownMarked := Option.isSome_iff_exists.2 ⟨_, loader?_mark present name⟩
  have linking := safe_link (safeLoad_load _) loader.source definition fineMarked knownMarked
    (Nat.lt_succ_self _)
  rcases ended : (link (load id) loader.source definition).outcome
    (area.updateLoader id fun loader => loader.mark name) with ⟨fault | type, after⟩
  · rw [outcome_define_unlinked present unanswered defined unmarked ended]
    rfl
  · rw [ended] at linking
    rcases (grows_unmark linking.grows).frame.known present with ⟨later, kept, _⟩
    rw [outcome_define_linked present unanswered defined unmarked ended kept]
    refine ⟨_, rfl, rfl, ?_⟩
    rw [settle, type?_answer, type?_placed kept, if_pos rfl]
    rfl

section

variable (accounted : area.Accounted) (below : area.parent? id = some parent)
  (ordinary : ¬ name.isArray) {cause : RuntimeError}
  (failed : ((load parent name).outcome area).1 = .error (.error cause))

include accounted below ordinary failed

/-- A loader answers a name that its parent does not find with a class of its own. -/
theorem Accounted.own_of_answered {found : ClassId}
    (answered : area.lookup? id name = some found) :
    found.loader = id ∧ ∃ type definition, area.type? found = some type ∧ type.name = name ∧
      area.Built area found type definition := by
  have home : found.loader = id := by
    by_contra elsewhere
    rcases (accounted.memory.answers answered).delegated ordinary elsewhere with
      ⟨other, belowOther, answeredAbove⟩
    rw [below] at belowOther
    cases belowOther
    rw [outcome_load_answered answeredAbove] at failed
    cases failed
  exact ⟨home, accounted.built_of_own below ordinary answered home⟩

/-- Otherwise the loader fails where its parent does. -/
theorem Accounted.load_passed (different : ∀ missing, cause ≠ .classNotFound missing) :
    ((load id name).outcome area).1 = .error (.error cause) := by
  cases answered : area.lookup? id name with
  | none =>
    rw [outcome_load_parent accounted.fine answered ordinary below, failed, orDefine]
    · rfl
    · exact fun missing same => different missing (Fault.error.inj same)
  | some found =>
    rcases accounted.own_of_answered below ordinary failed answered with
      ⟨rfl, type, definition, _, rfl, built⟩
    rcases built.missing parent below with ⟨missing, notFound⟩
    have top := accounted.memory.top accounted.fine
    have same := (accounted.resolves_error failed).unique top notFound
    exact absurd (Except.error.inj same).symm (different missing)

end

/-- A load through the parent leaves the loader as it is. -/
theorem WellFormed.loader?_of_parent (fine : area.WellFormed)
    (below : area.parent? id = some parent) (name : ClassName) :
    ((load parent name).outcome area).2.loader? id = area.loader? id := by
  have safe := safe_load name fine (fine.parent_known below)
  exact safe.grows.above (fine.descending below)

section

variable (accounted : area.Accounted) (below : area.parent? id = some parent)
  (ordinary : ¬ name.isArray) {missing : ClassName}
  (failed : ((load parent name).outcome area).1 = .error (.error (.classNotFound missing)))

include accounted below ordinary failed

theorem Accounted.load_undefined (undefined : area.definition? id name = none) :
    ((load id name).outcome area).1 = .error (.error (.classNotFound name)) := by
  cases answered : area.lookup? id name with
  | none =>
    have same := accounted.fine.loader?_of_parent below name
    rcases loader?_of_parent? below with ⟨loader, known⟩
    rw [outcome_load_parent accounted.fine answered ordinary below, failed, orDefine,
      outcome_define_undefined (same.trans known)]
    · rfl
    · rw [lookup?, same]
      exact answered
    · rw [definition?, same]
      exact undefined
  | some found =>
    rcases accounted.own_of_answered below ordinary failed answered with
      ⟨rfl, type, definition, _, rfl, built⟩
    rw [built.defined] at undefined
    cases undefined

theorem Accounted.load_defined {definition : ClassDefinition ι} {source : Source}
    (defined : area.definition? id name = some definition)
    (sourced : area.source? id = some source) :
    EndsAs id ((load id name).outcome area) (linkOwn area id parent name source definition) := by
  have fine := accounted.fine
  have same := fine.loader?_of_parent below name
  have asked := safe_load name fine (fine.parent_known below)
  have keyed := fine.keyed defined
  rcases loader?_of_parent? below with ⟨loader, known⟩
  rw [source?, known, Option.bind_some] at sourced
  cases sourced
  have present := same.trans known
  rw [linkOwn]
  cases answered : area.lookup? id name with
  | none =>
    rw [outcome_load_parent fine answered ordinary below, failed, orDefine]
    refine asked.wellFormed.endsAs_define present ordinary ?_ ?_ ?_
    · rw [lookup?, same]
      exact answered
    · rw [definition?, same]
      exact defined
    · rw [asked.grows.frame.linking, accounted.unlinked]
      exact List.not_mem_nil
  | some found =>
    rcases accounted.own_of_answered below ordinary failed answered with
      ⟨rfl, type, other, typed, rfl, built⟩
    cases defined.symm.trans built.defined
    have sources := built.source
    rw [source?, known, Option.bind_some] at sources
    have types {other : ClassId} {known : TypeDescriptor} (typed : area.type? other = some known) :
        (((load parent type.name).outcome area).2.updateLoader found.loader fun loader =>
          loader.mark type.name).type? other = some known := by
      rw [type?_mark]
      exact asked.grows.type typed
    have answers {other : LoaderId} {name : ClassName} {known : ClassId}
        (answered : area.lookup? other name = some known) :
        (((load parent type.name).outcome area).2.updateLoader found.loader fun loader =>
          loader.mark type.name).lookup? other name = some known := by
      rw [lookup?_updateLoader (fun loader => loader.mark type.name) fun _ => rfl]
      exact asked.grows.answers answered
    have linked := built.outcome_link fine typed ordinary keyed.symm types answers
    rw [outcome_load_answered answered, Option.some.inj sources, linked]
    exact ⟨found, rfl, rfl, typed⟩

end

/-! ## At any time -/

/-- In a run with settled definitions, what an ancestor finds is found through the
loader, before and after.  Where the parent fails to find a class that is no array,
the loader fails alike, unless the class is not found and the loader has a definition
of it. -/
theorem Settled.ancestors_first (settled : area.Settled) (name : ClassName) :
    (∀ ancestor found after later id, (load ancestor name).outcome area = (.ok found, after) →
      after.Continues later → (later.loader? id).isSome → later.Delegates id ancestor →
        ((load id name).outcome later).1 = .ok found) ∧
    (∀ id ancestor answer after later found, (area.loader? id).isSome →
      area.Delegates id ancestor → (load id name).outcome area = (answer, after) →
        after.Continues later → ((load ancestor name).outcome later).1 = .ok found →
          answer = .ok found) ∧
    (∀ id parent other fault, ¬ name.isArray → other.Settled →
      area.Continues other ∨ other.Continues area → (area.loader? parent).isSome →
      other.parent? id = some parent → ((load parent name).outcome area).1 = .error fault →
        ∃ cause, fault = .error cause ∧
          ((∀ missing, cause ≠ .classNotFound missing) →
            ((load id name).outcome other).1 = .error (.error cause)) ∧
          ∀ missing, cause = .classNotFound missing →
            (other.definition? id name = none →
              ((load id name).outcome other).1 = .error (.error (.classNotFound name))) ∧
            ∀ definition source, other.definition? id name = some definition →
              other.source? id = some source →
                EndsAs id ((load id name).outcome other)
                  (other.linkOwn id parent name source definition)) := by
  have accounted := settled.accounted
  refine ⟨?_, ?_, ?_⟩
  · intro ancestor found after later id ended onward known asked
    have left : after = ((load ancestor name).outcome area).2 := (congrArg Prod.snd ended).symm
    rw [left] at onward
    exact accounted.load_after_ancestor (congrArg Prod.fst ended) onward known asked
  · intro id ancestor answer after later found known asked ended onward again
    have left : after = ((load id name).outcome area).2 := (congrArg Prod.snd ended).symm
    rw [left] at onward
    exact (congrArg Prod.fst ended).symm.trans
      (accounted.load_before_ancestor known asked onward again)
  · intro id parent other fault ordinary settledOther related known below failed
    have accountedOther := settledOther.accounted
    rcases (safe_load name accounted.fine known).cause fault failed with ⟨cause, rfl⟩
    have failedOther : ((load parent name).outcome other).1 = .error (.error cause) := by
      rcases related with onward | onward
      · exact (accounted.load_fails onward known cause).1 failed
      · have there := accountedOther.fine.parent_known below
        exact (accountedOther.load_fails onward there cause).2 failed
    refine ⟨cause, rfl, accountedOther.load_passed below ordinary failedOther, ?_⟩
    rintro missing rfl
    exact ⟨accountedOther.load_undefined below ordinary failedOther,
      fun definition source => accountedOther.load_defined below ordinary failedOther⟩

/-- The case of a child with a definition under a name that its parent can define as
well, and of a name that neither of them can define. -/
theorem ancestors_first_shadowed :
    let definitions : List (ClassDefinition Unit) :=
      [{ ClassDefinition.ordinary ClassName.object with superName := none },
        .interface ClassName.cloneable, .interface ClassName.serializable]
    let loaders := ((addLoader "child" .bootPath (some ⟨1⟩)).outcome
      ((addLoader "parent" .bootPath none).outcome (initial definitions)).2).2
    let area := ((addDefinition ⟨2⟩ (.interface "A")).outcome
      ((addDefinition ⟨1⟩ (.ordinary "A")).outcome loaders).2).2
    let after := ((load ⟨1⟩ "[[LA;").outcome area).2
    area.Settled ∧ ((load ⟨2⟩ "[[LA;").outcome after).1 = .ok ⟨⟨1⟩, 2⟩ ∧
      ((load ⟨2⟩ "B").outcome after).1 = .error (.error (.classNotFound "B")) := by
  intro definitions loaders area after
  have unused : loaders.Unused :=
    .addLoader _ _ _ (by rintro _ ⟨⟩; decide) (.addLoader _ _ _ (by simp) (.initial _))
  have settled : area.Settled :=
    Unused.settled (.addDefinition _ _ (.addDefinition _ _ unused))
  have below : after.Delegates ⟨2⟩ ⟨1⟩ := Relation.ReflTransGen.single (by decide +kernel)
  have first : ((load ⟨1⟩ "[[LA;").outcome area).1 = .ok ⟨⟨1⟩, 2⟩ := by decide +kernel
  have onward : area.Continues after :=
    Relation.ReflTransGen.single (proceeds_load settled.accounted ⟨1⟩ "[[LA;")
  refine ⟨settled, ?_, ?_⟩
  · exact (settled.ancestors_first "[[LA;").1 ⟨1⟩ _ after after ⟨2⟩ (Prod.ext first rfl) .refl
      (by decide +kernel) below
  · rcases (settled.ancestors_first "B").2.2 ⟨2⟩ ⟨1⟩ after (.error (.classNotFound "B"))
      (by decide) (settled.later onward) (Or.inl onward) (by decide +kernel) (by decide +kernel)
      (by decide +kernel) with ⟨cause, same, _, own⟩
    exact (own "B" (Fault.error.inj same).symm).1 (by decide +kernel)

end Area
end ClassRuntime

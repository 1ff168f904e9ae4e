import ClassRuntime.Proofs.Loader.Composition
import ClassRuntime.Proofs.Loader.Reachable

namespace ClassRuntime
namespace Area

/-!
# What is never taken back

Loaders, the types of classes and answers stay once they are there.  For answers
the reason is that a loader is given one only under a name for which it had none
when it was asked, and that what it was given in the meantime stays as well.  No
invariant of areas is used, so that this holds of every load from every area,
also of one that fails, and of everything else that can happen to an area.

A name that has an answer is therefore settled.  To load it again is to look it
up.
-/

variable {ι : Type} {before middle after area : Area ι}

/-- Loaders, types and answers that are there stay there. -/
structure Retains (before after : Area ι) : Prop where
  loader : ∀ {id}, (before.loader? id).isSome → (after.loader? id).isSome
  type : ∀ {id type}, before.type? id = some type → after.type? id = some type
  answer : ∀ {id name found}, before.lookup? id name = some found →
    after.lookup? id name = some found

namespace Retains

theorem refl (area : Area ι) : Retains area area where
  loader known := known
  type typed := typed
  answer answered := answered

theorem trans (first : before.Retains middle) (second : middle.Retains after) :
    before.Retains after where
  loader known := second.loader (first.loader known)
  type typed := second.type (first.type typed)
  answer answered := second.answer (first.answer answered)

instance : IsPreorder (Area ι) Retains where
  refl := refl
  trans _ _ _ := trans

theorem exists_class (retains : before.Retains after) {id : ClassId} {loaded : LoadedClass ι}
    (found : before.class? id = some loaded) : ∃ later, after.class? id = some later ∧
      later.toTypeDescriptor = loaded.toTypeDescriptor :=
  class?_of_type? (retains.type (type?_of_class? found))

end Retains

/-! ## Changes of one loader -/

theorem retains_updateLoader (area : Area ι) {id : LoaderId} (change : Loader ι → Loader ι)
    (types : ∀ other, (area.updateLoader id change).type? other = area.type? other)
    (answers : ∀ loader, (change loader).byName = loader.byName) :
    area.Retains (area.updateLoader id change) where
  loader known := (isSome_updateLoader change area _).trans known
  type typed := (types _).trans typed
  answer answered := (lookup?_updateLoader change answers area _ _).trans answered

theorem retains_updateClass (area : Area ι) (id : ClassId)
    {change : LoadedClass ι → LoadedClass ι}
    (kept : ∀ loaded, (change loaded).toTypeDescriptor = loaded.toTypeDescriptor) :
    area.Retains (area.updateClass id change) :=
  retains_updateLoader area _ (type?_updateClass kept area) fun _ => rfl

theorem retains_relink (area : Area ι) (id : LoaderId) (change : Loader ι → Loader ι)
    (classes : ∀ loader, (change loader).classes = loader.classes)
    (answers : ∀ loader, (change loader).byName = loader.byName) :
    area.Retains (area.updateLoader id change) :=
  retains_updateLoader area change (type?_updateLoader change classes area) answers

/-- A name that had no answer in the beginning can be given one. -/
theorem Retains.answered (retains : before.Retains after) {id : LoaderId} {name : ClassName}
    (unanswered : before.lookup? id name = none) (found : ClassId) :
    before.Retains (after.updateLoader id fun loader => loader.answer name found) := by
  cases known : after.loader? id with
  | none =>
    rw [updateLoader_of_unknown known]
    exact retains
  | some loader =>
    constructor
    · exact fun there => (isSome_updateLoader _ after _).trans (retains.loader there)
    · intro other type typed
      rw [type?_answer]
      exact retains.type typed
    · intro other sought answer answered
      rw [lookup?_answer known, if_neg]
      · exact retains.answer answered
      · rintro ⟨rfl, rfl⟩
        rw [unanswered] at answered
        cases answered

theorem Retains.settle {id : LoaderId} {name : ClassName}
    {outcome : Except Fault ClassId × Area ι} (retains : before.Retains outcome.2)
    (unanswered : before.lookup? id name = none) :
    before.Retains (settle id name outcome).2 := by
  rcases outcome with ⟨fault | found, after⟩
  · exact retains
  · exact retains.answered unanswered found

/-- A class can be added under a name that had no answer in the beginning. -/
theorem Retains.place (retains : before.Retains area) {id : LoaderId} {loader : Loader ι}
    {name : ClassName} (loaded : LoadedClass ι) (known : area.loader? id = some loader)
    (unanswered : before.lookup? id name = none) :
    before.Retains (placed area id loader name loaded) := by
  have pushed : area.Retains (area.updateLoader id fun loader => loader.push loaded) :=
    ⟨fun there => (isSome_updateLoader _ area _).trans there, (grows_push known loaded).type,
      (grows_push known loaded).answers⟩
  exact (retains.trans pushed).answered unanswered _

/-! ## Loading -/

theorem linking_retains : Linking fun α (action : Action (Area ι) α) => action.Within Retains where
  toCompositional := Action.compositional_within Retains
  getClass id area := by
    rw [outcome_getClass]
    exact .refl area
  incompatible _ _ := .fail _

section Nested

variable {nested : Load ι}

theorem retains_define (retains : ∀ id name, (nested id name).Within Retains) (id : LoaderId)
    (name : ClassName) : (define nested id name).Within Retains := by
  intro area
  cases known : area.loader? id with
  | none =>
    simp only [define, Action.outcome_bind, outcome_getLoader, loader_eq_error known]
    exact .refl area
  | some loader =>
    cases answered : area.lookup? id name with
    | some found =>
      rw [outcome_define_known known answered]
      exact .refl area
    | none =>
      cases defined : area.definition? id name with
      | none =>
        rw [outcome_define_undefined known answered defined]
        exact .refl area
      | some definition =>
        by_cases marked : name ∈ area.linking id
        · rw [outcome_define_circular known answered defined marked]
          exact .refl area
        · have begun := retains_relink area id (fun loader => loader.mark name) (fun _ => rfl)
            fun _ => rfl
          have linked := linking_retains.link (retains id) loader.source definition
            (area.updateLoader id fun loader => loader.mark name)
          rcases ended : (link (nested id) loader.source definition).outcome
            (area.updateLoader id fun loader => loader.mark name) with ⟨fault | type, middle⟩
          all_goals
            rw [ended] at linked
            have unmarked := (begun.trans linked).trans (retains_relink middle id
              (fun loader => loader.unmark name) (fun _ => rfl) fun _ => rfl)
          · rw [outcome_define_unlinked known answered defined marked ended]
            exact unmarked
          · have there := unmarked.loader (Option.isSome_iff_exists.2 ⟨loader, known⟩)
            rcases Option.isSome_iff_exists.1 there with ⟨later, kept⟩
            rw [outcome_define_linked known answered defined marked ended kept]
            exact unmarked.place _ kept answered

theorem retains_orDefine (retains : ∀ id name, (nested id name).Within Retains) (id : LoaderId)
    (name : ClassName) (answer : Except Fault ClassId) :
    (orDefine nested id name answer).Within Retains := by
  unfold orDefine
  split
  · exact .pure _
  · exact retains_define retains id name
  · exact .throw _

theorem retains_delegate (retains : ∀ id name, (nested id name).Within Retains) (bound : Nat)
    (id : LoaderId) (name : ClassName) : (delegate nested bound id name).Within Retains := by
  induction bound generalizing id with
  | zero => exact .throw _
  | succ bound inductiveStep =>
    intro area
    cases known : area.loader? id with
    | none =>
      simp only [delegate, Action.outcome_bind, outcome_getLoader, loader_eq_error known]
      exact .refl area
    | some loader =>
      cases answered : area.lookup? id name with
      | some found =>
        rw [outcome_delegate_known known answered]
        exact .refl area
      | none =>
        cases below : area.parent? id with
        | none =>
          rw [outcome_delegate_top known answered below]
          exact (retains_define retains id name area).settle answered
        | some parent =>
          rw [outcome_delegate_parent known answered below]
          exact Retains.settle ((inductiveStep parent area).trans
            (retains_orDefine retains id name _ _)) answered

theorem retains_loadOrdinary (retains : ∀ id name, (nested id name).Within Retains)
    (id : LoaderId) (name : ClassName) : (loadOrdinary nested id name).Within Retains := by
  unfold loadOrdinary
  exact .bind .get fun area => retains_delegate retains _ id name

theorem retains_keepArray (name : ClassName) (component : ClassId) (type : TypeDescriptor) :
    (keepArray name component type : Action (Area ι) ClassId).Within Retains := by
  intro area
  cases known : area.loader? component.loader with
  | none =>
    simp only [keepArray, Action.outcome_bind, outcome_getLoader, loader_eq_error known]
    exact .refl area
  | some loader =>
    cases answered : area.lookup? component.loader name with
    | some found =>
      rw [outcome_keepArray_known known answered]
      exact .refl area
    | none =>
      rw [outcome_keepArray_new known answered]
      exact (Retains.refl area).place _ known answered

theorem retains_obtainArray (retains : ∀ id name, (nested id name).Within Retains)
    (name : ClassName) (component : ClassId) :
    (obtainArray nested name component).Within Retains := by
  have boot := retains_loadOrdinary retains .bootstrap
  rw [obtainArray_eq]
  exact .bind (linking_retains.getClass component) fun element => .bind (boot .object) fun root =>
    .bind (boot .cloneable) fun cloneable => .bind (boot .serializable) fun serializable =>
    retains_keepArray name component _

theorem retains_loadWith (retains : ∀ id name, (nested id name).Within Retains) (id : LoaderId)
    (name : ClassName) : (loadWith nested id name).Within Retains := by
  intro area
  by_cases array : name.isArray
  · cases known : area.loader? id with
    | none =>
      rw [loadWith, if_pos array, Action.outcome_bind, outcome_getLoader, loader_eq_error known]
      exact .refl area
    | some loader =>
      cases answered : area.lookup? id name with
      | some found =>
        rw [outcome_loadWith_known array known answered]
        exact .refl area
      | none =>
        cases shape : name.component? with
        | none =>
          rw [outcome_loadWith_malformed array known answered shape]
          exact .refl area
        | some componentName =>
          have inner := retains_loadWith retains id componentName
          rw [outcome_loadWith_array array known answered shape]
          exact Retains.settle
            (inner.bind (fun component => retains_obtainArray retains name component) area) answered
  · rw [outcome_loadWith_ordinary array]
    exact retains_loadOrdinary retains id name area
termination_by name.nesting
decreasing_by exact ClassName.nesting_component? (by assumption)

end Nested

theorem retains_loadNested (depth : Nat) (id : LoaderId) (name : ClassName) :
    (loadNested depth id name : Action (Area ι) ClassId).Within Retains := by
  induction depth generalizing id name with
  | zero => exact .throw _
  | succ depth inductiveStep => exact retains_loadWith inductiveStep id name

theorem retains_load (id : LoaderId) (name : ClassName) :
    (load id name : Action (Area ι) ClassId).Within Retains := by
  unfold load
  exact .bind .get fun area => retains_loadNested _ id name

/-! ## Loaders and definitions -/

theorem retains_addLoader (name : String) (source : Source) (parent : Option LoaderId) :
    (addLoader name source parent : Action (Area ι) LoaderId).Within Retains := by
  intro area
  have kept {id : LoaderId} {loader : Loader ι} (known : area.loader? id = some loader) :
      ((addLoader name source parent).outcome area).2.loader? id = some loader :=
    loader?_addLoader_of_known name source parent known
  constructor
  · intro id there
    rcases Option.isSome_iff_exists.1 there with ⟨loader, known⟩
    rw [kept known]
    rfl
  · exact fun typed => type?_addLoader_of_some name source parent typed
  · intro id sought found answered
    rcases Option.bind_eq_some_iff.1 answered with ⟨loader, known, _⟩
    rw [lookup?_eq (kept known), ← lookup?_eq known]
    exact answered

theorem retains_addDefinition (id : LoaderId) (definition : ClassDefinition ι) :
    (addDefinition id definition).Within Retains := by
  intro area
  rw [outcome_addDefinition]
  exact retains_relink area id (fun loader => loader.addDefinition definition) (fun _ => rfl)
    fun _ => rfl

/-! ## Loading again -/

/-- What a loader answers already is found without any change. -/
theorem outcome_load_answered {id : LoaderId} {name : ClassName} {found : ClassId}
    (answered : area.lookup? id name = some found) :
    (load id name).outcome area = (.ok found, area) := by
  rcases Option.bind_eq_some_iff.1 answered with ⟨loader, known, _⟩
  rw [load, Action.outcome_bind, Action.outcome_get]
  change (loadWith (loadNested area.definitionCount) id name).outcome area = _
  by_cases array : name.isArray
  · exact outcome_loadWith_known array known answered
  · rw [outcome_loadWith_ordinary array, loadOrdinary, Action.outcome_bind, Action.outcome_get]
    exact outcome_delegate_known known answered

/-! ## What a load has found is an answer -/

private theorem lookup?_settle {id : LoaderId} {name : ClassName}
    {outcome : Except Fault ClassId × Area ι} (known : (outcome.2.loader? id).isSome)
    {found : ClassId} (ended : settle id name outcome = (.ok found, after)) :
    after.lookup? id name = some found := by
  rcases outcome with ⟨fault | other, middle⟩
  · cases ended
  · cases ended
    rcases Option.isSome_iff_exists.1 known with ⟨loader, present⟩
    rw [lookup?_answer present, if_pos ⟨rfl, rfl⟩]

section Answers

variable {nested : Load ι} {id : LoaderId} {name : ClassName} {found component : ClassId}

theorem lookup?_of_define (retains : ∀ id name, (nested id name).Within Retains)
    (ended : (define nested id name).outcome area = (.ok found, after)) :
    after.lookup? id name = some found := by
  cases known : area.loader? id with
  | none =>
    simp only [define, Action.outcome_bind, outcome_getLoader, loader_eq_error known] at ended
    cases ended
  | some loader =>
    cases answered : area.lookup? id name with
    | some other =>
      rw [outcome_define_known known answered] at ended
      cases ended
      exact answered
    | none =>
      cases defined : area.definition? id name with
      | none =>
        rw [outcome_define_undefined known answered defined] at ended
        cases ended
      | some definition =>
        by_cases marked : name ∈ area.linking id
        · rw [outcome_define_circular known answered defined marked] at ended
          cases ended
        · have kept := linking_retains.link (retains id) loader.source definition
            (area.updateLoader id fun loader => loader.mark name)
          rcases linked : (link (nested id) loader.source definition).outcome
            (area.updateLoader id fun loader => loader.mark name) with ⟨fault | type, middle⟩
          · rw [outcome_define_unlinked known answered defined marked linked] at ended
            cases ended
          · rw [linked] at kept
            have there := kept.loader (Option.isSome_iff_exists.2 ⟨_, loader?_mark known name⟩)
            rw [← isSome_updateLoader fun loader => loader.unmark name] at there
            rcases Option.isSome_iff_exists.1 there with ⟨later, present⟩
            rw [outcome_define_linked known answered defined marked linked present] at ended
            cases ended
            rw [lookup?_placed present, if_pos ⟨rfl, rfl⟩]

theorem lookup?_of_delegate (retains : ∀ id name, (nested id name).Within Retains) {bound : Nat}
    (ended : (delegate nested bound id name).outcome area = (.ok found, after)) :
    after.lookup? id name = some found := by
  cases bound with
  | zero => cases ended
  | succ bound =>
    cases known : area.loader? id with
    | none =>
      simp only [delegate, Action.outcome_bind, outcome_getLoader, loader_eq_error known] at ended
      cases ended
    | some loader =>
      have there := Option.isSome_iff_exists.2 ⟨loader, known⟩
      cases answered : area.lookup? id name with
      | some other =>
        rw [outcome_delegate_known known answered] at ended
        cases ended
        exact answered
      | none =>
        cases below : area.parent? id with
        | none =>
          rw [outcome_delegate_top known answered below] at ended
          exact lookup?_settle ((retains_define retains id name area).loader there) ended
        | some parent =>
          rw [outcome_delegate_parent known answered below] at ended
          have asked := retains_delegate retains bound parent name area
          exact lookup?_settle
            ((asked.trans (retains_orDefine retains id name _ _)).loader there) ended

theorem lookup?_of_loadOrdinary (retains : ∀ id name, (nested id name).Within Retains)
    (ended : (loadOrdinary nested id name).outcome area = (.ok found, after)) :
    after.lookup? id name = some found :=
  lookup?_of_delegate retains ended

theorem lookup?_of_keepArray {type : TypeDescriptor}
    (ended : (keepArray name component type).outcome area = (.ok found, after)) :
    after.lookup? component.loader name = some found := by
  cases known : area.loader? component.loader with
  | none =>
    simp only [keepArray, Action.outcome_bind, outcome_getLoader, loader_eq_error known] at ended
    cases ended
  | some loader =>
    cases answered : area.lookup? component.loader name with
    | some other =>
      rw [outcome_keepArray_known known answered] at ended
      cases ended
      exact answered
    | none =>
      rw [outcome_keepArray_new known answered] at ended
      cases ended
      rw [lookup?_placed known, if_pos ⟨rfl, rfl⟩]

/-- The loader of the component answers the name of the array. -/
theorem lookup?_of_obtainArray
    (ended : (obtainArray nested name component).outcome area = (.ok found, after)) :
    after.lookup? component.loader name = some found := by
  rw [obtainArray_eq] at ended
  rcases Action.bind_ok ended with ⟨element, _, _, rest⟩
  rcases Action.bind_ok rest with ⟨root, _, _, rest⟩
  rcases Action.bind_ok rest with ⟨cloneable, _, _, rest⟩
  rcases Action.bind_ok rest with ⟨serializable, _, _, last⟩
  exact lookup?_of_keepArray last

end Answers

/-- A loader answers the name with the class that it has loaded. -/
theorem lookup?_of_loadWith {nested : Load ι}
    (retains : ∀ id name, (nested id name).Within Retains) {id : LoaderId} {name : ClassName}
    {found : ClassId} (ended : (loadWith nested id name).outcome area = (.ok found, after)) :
    after.lookup? id name = some found := by
  by_cases array : name.isArray
  · cases known : area.loader? id with
    | none =>
      rw [loadWith, if_pos array, Action.outcome_bind, outcome_getLoader,
        loader_eq_error known] at ended
      cases ended
    | some loader =>
      have there := Option.isSome_iff_exists.2 ⟨loader, known⟩
      cases answered : area.lookup? id name with
      | some other =>
        rw [outcome_loadWith_known array known answered] at ended
        cases ended
        exact answered
      | none =>
        cases shape : name.component? with
        | none =>
          rw [outcome_loadWith_malformed array known answered shape] at ended
          cases ended
        | some componentName =>
          rw [outcome_loadWith_array array known answered shape] at ended
          have made := (retains_loadWith retains id componentName).bind fun component =>
            retains_obtainArray retains name component
          exact lookup?_settle ((made area).loader there) ended
  · rw [outcome_loadWith_ordinary array] at ended
    exact lookup?_of_loadOrdinary retains ended

theorem lookup?_of_load {id : LoaderId} {name : ClassName} {found : ClassId}
    (ended : (load id name).outcome area = (.ok found, after)) :
    after.lookup? id name = some found := by
  rw [load, Action.outcome_bind, Action.outcome_get] at ended
  exact lookup?_of_loadWith (retains_loadNested area.definitionCount) ended

end Area
end ClassRuntime

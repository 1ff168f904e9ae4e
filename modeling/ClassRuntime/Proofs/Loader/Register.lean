import ClassRuntime.Proofs.Loader.Bootstrap

namespace ClassRuntime
namespace Area

/-!
# Classes under their own names

A loader answers the name of each of its classes with this very class.  The keywords
of the primitive types are names that only the bootstrap loader has classes of, and an
array has its place at the loader of its component.

Nothing is assumed about the parents of loaders.  They may be missing, or lead in a
circle, and what a loader answers may be the class of any loader to which they lead.
-/

variable {ι : Type} {area before after : Area ι} {id : LoaderId} {name : ClassName}
  {found : ClassId}

/-! ## Registers -/

/-- The loader has a class under the name of the component. -/
def Composed (area : Area ι) (id : LoaderId) (name : ClassName) : Prop :=
  ∃ component element, component.loader = id ∧ area.type? component = some element ∧
    name.component? = some element.name

theorem Composed.mono
    (types : ∀ {id type}, before.type? id = some type → after.type? id = some type)
    (composed : before.Composed id name) : after.Composed id name := by
  rcases composed with ⟨component, element, home, behind, named⟩
  exact ⟨component, element, home, types behind, named⟩

/-- All loaders know their own classes.  A class goes by the keyword of a primitive
type only at the bootstrap loader, which is the only one without a parent. -/
structure Registered (area : Area ι) : Prop where
  top : area.parent? .bootstrap = none
  tops : ∀ {id}, (area.loader? id).isSome → area.parent? id = none → id = .bootstrap
  keyed : ∀ {id name definition}, area.definition? id name = some definition →
    definition.name = name
  keywords : ∀ {name : ClassName}, name.isPrimitive → (area.lookup? .bootstrap name).isSome
  answered : ∀ {id name found}, area.lookup? id name = some found → area.Found id name found
  recorded : ∀ {id type}, area.type? id = some type →
    area.lookup? id.loader type.name = some id
  composed : ∀ {id type}, area.type? id = some type → type.name.isArray →
    area.Composed id.loader type.name
  reserved : ∀ {id type}, area.type? id = some type → type.name.isPrimitive →
    id.loader = .bootstrap

namespace Registered

/-- Registers are a matter of what can be looked up. -/
theorem of_resembles (registered : before.Registered) (same : before.Resembles after) :
    after.Registered where
  top := (same.parent _).trans registered.top
  tops {id} there top :=
    registered.tops ((same.known id).symm.trans there) ((same.parent id).symm.trans top)
  keyed {id _ _} found := same.keyed id (fun _ _ found => registered.keyed found) _ _ found
  keywords {name} keyword := by
    rw [same.answer]
    exact registered.keywords keyword
  answered {id name found} answer := by
    rw [same.answer] at answer
    exact (registered.answered answer).mono (fun {id _} asked => (same.parent id).trans asked)
      fun {id _} typed => (same.type id).trans typed
  recorded {id type} typed := by
    rw [same.type] at typed
    rw [same.answer]
    exact registered.recorded typed
  composed {id type} typed array := by
    rw [same.type] at typed
    exact (registered.composed typed array).mono fun {id _} typed => (same.type id).trans typed
  reserved {id type} typed keyword := by
    rw [same.type] at typed
    exact registered.reserved typed keyword

/-- Within an unchanged frame, new answers and new classes are all that matters. -/
theorem of_frame (registered : before.Registered) (frame : before.SameFrame after)
    (types : ∀ {id type}, before.type? id = some type → after.type? id = some type)
    (kept : ∀ {id name}, (before.lookup? id name).isSome → (after.lookup? id name).isSome)
    (answered : ∀ {id name found}, after.lookup? id name = some found →
      before.lookup? id name = some found ∨ after.Found id name found)
    (recorded : ∀ {id type}, after.type? id = some type →
      after.lookup? id.loader type.name = some id)
    (added : ∀ {id type}, after.type? id = some type → before.type? id = some type ∨
      ¬ type.name.isPrimitive ∧ (type.name.isArray → before.Composed id.loader type.name)) :
    after.Registered where
  top := (frame.parent? _).trans registered.top
  tops {id} there top :=
    registered.tops ((frame.isSome id).symm.trans there) ((frame.parent? id).symm.trans top)
  keyed {id name definition} defined := by
    rw [frame.definition?] at defined
    exact registered.keyed defined
  keywords keyword := kept (registered.keywords keyword)
  answered answer := by
    rcases answered answer with earlier | fine
    · exact (registered.answered earlier).mono
        (fun {child _} asked => (frame.parent? child).trans asked) types
    · exact fine
  recorded := recorded
  composed typed array := by
    rcases added typed with earlier | ⟨_, composed⟩
    · exact (registered.composed earlier array).mono types
    · exact (composed array).mono types
  reserved typed keyword := by
    rcases added typed with earlier | ⟨unreserved, _⟩
    · exact registered.reserved earlier keyword
    · exact absurd keyword unreserved

/-- A loader has no class of a name that it does not answer. -/
theorem fresh (registered : area.Registered) (unanswered : area.lookup? id name = none)
    {other : ClassId} {type : TypeDescriptor} (typed : area.type? other = some type)
    (home : other.loader = id) : type.name ≠ name := by
  rintro rfl
  have recorded := registered.recorded typed
  rw [home, unanswered] at recorded
  cases recorded

/-- Where there is no parent, keywords are answered. -/
theorem unreserved (registered : area.Registered) (there : (area.loader? id).isSome)
    (top : area.parent? id = none) (unanswered : area.lookup? id name = none) :
    ¬ name.isPrimitive := by
  intro keyword
  have answered := registered.keywords keyword
  rw [← registered.tops there top, unanswered] at answered
  cases answered

/-- A loader can be given an answer if it has no other class of the name. -/
theorem answer (registered : area.Registered) (fine : area.Found id name found)
    (own : ∀ {other type}, area.type? other = some type → other.loader = id → type.name = name →
      other = found) :
    (area.updateLoader id fun loader => loader.answer name found).Registered := by
  cases known : area.loader? id with
  | none =>
    rw [updateLoader_of_unknown known]
    exact registered
  | some loader =>
    have frame := sameFrame_answer area id name found
    have types := type?_answer area id name found
    refine registered.of_frame frame (fun {other _} typed => (types other).trans typed) ?_ ?_ ?_
      fun {other _} typed => Or.inl ((types other).symm.trans typed)
    · intro home sought there
      rw [lookup?_answer known]
      split
      · rfl
      · exact there
    · intro home sought other answer
      rw [lookup?_answer known] at answer
      split at answer
      next here =>
        rcases here with ⟨rfl, rfl⟩
        cases answer
        exact Or.inr (fine.mono (fun {child _} asked => (frame.parent? child).trans asked)
          fun {other _} typed => (types other).trans typed)
      next => exact Or.inl answer
    · intro other type typed
      rw [types] at typed
      rw [lookup?_answer known]
      split
      next here => rw [own typed here.1.symm here.2.symm]
      next => exact registered.recorded typed

/-- A class can be given the next place at a loader that has no class of its name. -/
theorem place (registered : area.Registered) {loader : Loader ι} {loaded : LoadedClass ι}
    (known : area.loader? id = some loader) (named : loaded.name = name)
    (fresh : ∀ {other type}, area.type? other = some type → other.loader = id →
      type.name ≠ name)
    (unreserved : ¬ name.isPrimitive)
    (composed : name.isArray → area.Composed id name) :
    (placed area id loader name loaded).Registered := by
  refine registered.of_frame sameFrame_placed (fun {other type} typed => ?_)
    (fun {home sought} there => ?_) (fun {home sought other} answer => ?_)
    (fun {other type} typed => ?_) fun {other type} typed => ?_
  · rw [placed, type?_answer]
    exact (grows_push known loaded).type typed
  · rw [lookup?_placed known]
    split
    · rfl
    · exact there
  · rw [lookup?_placed known] at answer
    split at answer
    next here =>
      rcases here with ⟨rfl, rfl⟩
      cases answer
      refine Or.inr ⟨Relation.ReflTransGen.refl, loaded.toTypeDescriptor, ?_, named⟩
      rw [type?_placed known, if_pos rfl]
    next => exact Or.inl answer
  · rw [type?_placed known] at typed
    rw [lookup?_placed known]
    split at typed
    next here =>
      subst here
      cases typed
      rw [if_pos ⟨rfl, named.symm⟩]
    next =>
      rw [if_neg fun here => fresh typed here.1.symm here.2.symm]
      exact registered.recorded typed
  · rw [type?_placed known] at typed
    split at typed
    next here =>
      subst here
      cases typed
      rw [named]
      exact Or.inr ⟨unreserved, composed⟩
    next => exact Or.inl typed

end Registered

/-! ## At any time -/

/-- Registers that are in order remain so, through whichever loader a class is loaded. -/
def StaysRegistered (before after : Area ι) : Prop :=
  before.Registered → after.Registered

instance : IsPreorder (Area ι) StaysRegistered where
  refl _ registered := registered
  trans _ _ _ first second registered := second (first registered)

theorem registered_initial (definitions : List (ClassDefinition ι)) :
    (initial definitions).Registered := by
  have fine := wellFormed_initial definitions
  have primitive {id : ClassId} {type : TypeDescriptor}
      (typed : (initial definitions).type? id = some type) :
      id.loader = .bootstrap ∧ type.name.isPrimitive := by
    rw [type?_initial] at typed
    split at typed
    next here =>
      rcases Option.map_eq_some_iff.1 typed with ⟨primitive, _, rfl⟩
      exact ⟨here, ClassName.isPrimitive_keyword primitive⟩
    next => cases typed
  constructor
  · exact parent?_initial definitions _
  · intro id there _
    rw [loader?_initial] at there
    split at there
    · assumption
    · cases there
  · exact fine.keyed
  · intro name keyword
    rcases Option.isSome_iff_exists.1 keyword with ⟨primitive, found⟩
    rcases List.mem_iff_getElem?.1 (List.mem_of_find?_eq_some found) with ⟨index, listed⟩
    rw [Primitive.ofKeyword?_eq_some_iff.1 found, lookup?_primitive definitions listed]
    rfl
  · exact fine.answered
  · exact fine.recorded
  · intro id type typed array
    exact absurd array (ClassName.not_isArray_of_isPrimitive (primitive typed).2)
  · exact fun typed _ => (primitive typed).1

theorem Registered.rooted (registered : area.Registered) : (area.loader? .bootstrap).isSome := by
  rcases Option.isSome_iff_exists.1
    (registered.keywords (ClassName.isPrimitive_keyword .void)) with ⟨found, answered⟩
  rcases Option.bind_eq_some_iff.1 answered with ⟨loader, known, _⟩
  exact Option.isSome_iff_exists.2 ⟨loader, known⟩

/-- A new loader has a parent and nothing else. -/
theorem staysRegistered_addLoader (name : String) (source : Source) (parent : Option LoaderId) :
    (addLoader name source parent : Action (Area ι) LoaderId).Within StaysRegistered := by
  intro area registered
  have added := loader?_addLoader area name source parent
  have retains := retains_addLoader name source parent area
  have typed_of {id : ClassId} {type : TypeDescriptor}
      (typed : ((addLoader name source parent).outcome area).2.type? id = some type) :
      area.type? id = some type := by
    rw [type?, class?, added] at typed
    split at typed
    · cases typed
    · exact typed
  constructor
  · rcases Option.isSome_iff_exists.1 registered.rooted with ⟨loader, known⟩
    rw [parent?_eq (loader?_addLoader_of_known name source parent known), ← parent?_eq known]
    exact registered.top
  · intro id there top
    rw [added] at there
    rw [parent?, added] at top
    split at there
    next last =>
      rw [if_pos last] at top
      cases top
    next different =>
      rw [if_neg different] at top
      exact registered.tops there top
  · intro id sought definition found
    rw [definition?, added] at found
    split at found
    · cases found
    · exact registered.keyed found
  · intro sought keyword
    rcases Option.isSome_iff_exists.1 (registered.keywords keyword) with ⟨found, answered⟩
    rw [retains.answer answered]
    rfl
  · intro id sought found answered
    rw [lookup?, added] at answered
    split at answered
    · cases answered
    · exact (registered.answered answered).mono (parent?_addLoader_of_some name source parent)
        retains.type
  · exact fun typed => retains.answer (registered.recorded (typed_of typed))
  · exact fun typed array => (registered.composed (typed_of typed) array).mono retains.type
  · exact fun typed keyword => registered.reserved (typed_of typed) keyword

theorem staysRegistered_addDefinition (id : LoaderId) (definition : ClassDefinition ι) :
    (addDefinition id definition).Within StaysRegistered := by
  intro area registered
  rw [outcome_addDefinition]
  exact registered.of_resembles (resembles_addDefinition area id definition)

end Area
end ClassRuntime

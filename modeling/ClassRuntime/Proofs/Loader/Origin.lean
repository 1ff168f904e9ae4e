import ClassRuntime.Proofs.Loader.Bootstrap

namespace ClassRuntime
namespace Area

/-!
# Where classes come from

A class of an area is that of a primitive type, or it was made of a definition, or it
is an array that was made of its component.  What an array has been given is known
from this for good: its component remains what it was, and the bootstrap loader goes
on to answer the names of the three classes on which all arrays rest as it did then.

The latter is not a matter of course.  A loader could define a class again while it
is linking it.  The marks prevent this, since the bootstrap loader does not ask any
other loader: as long as a name is marked there, it has no answer.
-/

variable {ι : Type} {area before after : Area ι} {id : ClassId} {type : TypeDescriptor}
  {initializer : Option ι}

/-- What is fixed about a class: its type and its initializer. -/
def blueprint? (area : Area ι) (id : ClassId) : Option (TypeDescriptor × Option ι) :=
  (area.class? id).map fun loaded => (loaded.toTypeDescriptor, loaded.initializer)

/-- Answers, marks and what is fixed about classes are as before. -/
structure SameRecords (before after : Area ι) : Prop where
  answers : ∀ id name, after.lookup? id name = before.lookup? id name
  marks : ∀ id, after.linking id = before.linking id
  blueprints : ∀ id, after.blueprint? id = before.blueprint? id

/-- How a class with the given type and initializer has come about. -/
inductive Origin (area : Area ι) (id : ClassId) : TypeDescriptor → Option ι → Prop
  | primitive (primitive : Primitive) : Origin area id (Loader.primitiveType primitive) none
  | declared {definition : ClassDefinition ι} {type : TypeDescriptor}
      (declares : area.Declares definition type) : Origin area id type definition.initializer
  | array {name : ClassName} {component : ClassId} {element : TypeDescriptor}
      {root cloneable serializable : ClassId} (home : component.loader = id.loader)
      (behind : area.type? component = some element)
      (isRoot : area.lookup? .bootstrap .object = some root)
      (isCloneable : area.lookup? .bootstrap .cloneable = some cloneable)
      (isSerializable : area.lookup? .bootstrap .serializable = some serializable) :
      Origin area id (arrayType name component element root [cloneable, serializable]) none

/-- It is known of each class where it comes from, and the bootstrap loader has no
answer under a name that is marked there. -/
structure Traced (area : Area ι) : Prop where
  unanswered : ∀ name ∈ area.linking .bootstrap, ¬ name.isArray →
    area.lookup? .bootstrap name = none
  origin : ∀ {id type initializer}, area.blueprint? id = some (type, initializer) →
    area.Origin id type initializer

theorem blueprint?_of_class? {loaded : LoadedClass ι} (found : area.class? id = some loaded) :
    area.blueprint? id = some (loaded.toTypeDescriptor, loaded.initializer) := by
  rw [blueprint?, found, Option.map_some]

theorem type?_eq_blueprint? (area : Area ι) (id : ClassId) :
    area.type? id = (area.blueprint? id).map Prod.fst := by
  rw [blueprint?, Option.map_map]
  rfl

theorem type?_of_blueprint? (printed : area.blueprint? id = some (type, initializer)) :
    area.type? id = some type := by
  rw [type?_eq_blueprint?, printed, Option.map_some]

theorem blueprint?_of_type? (typed : area.type? id = some type) :
    ∃ initializer, area.blueprint? id = some (type, initializer) := by
  rcases class?_of_type? typed with ⟨loaded, found, rfl⟩
  exact ⟨loaded.initializer, blueprint?_of_class? found⟩

theorem SameRecords.type? (same : before.SameRecords after) (id : ClassId) :
    after.type? id = before.type? id := by
  rw [type?_eq_blueprint?, same.blueprints, ← type?_eq_blueprint?]

/-! ## What changes do to classes -/

theorem blueprint?_updateLoader {home : LoaderId} (change : Loader ι → Loader ι)
    (kept : ∀ loader, (change loader).classes = loader.classes) (area : Area ι) (id : ClassId) :
    (area.updateLoader home change).blueprint? id = area.blueprint? id := by
  rw [blueprint?, class?_updateLoader change kept, blueprint?]

theorem blueprint?_placed {home : LoaderId} {loader : Loader ι} {name : ClassName}
    {loaded : LoadedClass ι} (known : area.loader? home = some loader) (id : ClassId) :
    (placed area home loader name loaded).blueprint? id =
      if id = ⟨home, loader.classes.size⟩ then some (loaded.toTypeDescriptor, loaded.initializer)
      else area.blueprint? id := by
  rw [placed, blueprint?_updateLoader
    (fun changed => changed.answer name ⟨home, loader.classes.size⟩) fun _ => rfl,
    blueprint?, class?_push known]
  split
  · rfl
  · rfl

/-- The place for a new class is empty. -/
theorem ne_next {home : LoaderId} {loader : Loader ι} (known : area.loader? home = some loader)
    (printed : area.blueprint? id = some (type, initializer)) :
    id ≠ ⟨home, loader.classes.size⟩ := by
  rintro rfl
  rw [blueprint?, class?_next known] at printed
  cases printed

/-- A class that is there stays what it is. -/
theorem Change.blueprint (change : before.Change after)
    (printed : before.blueprint? id = some (type, initializer)) :
    after.blueprint? id = some (type, initializer) := by
  have unmarked (home : LoaderId) (name : ClassName) :
      (before.updateLoader home fun loader => loader.unmark name).blueprint? id =
        some (type, initializer) :=
    (blueprint?_updateLoader (fun loader => loader.unmark name) (fun _ => rfl) before id).trans
      printed
  cases change with
  | mark home unanswered =>
    rwa [blueprint?_updateLoader (fun loader => loader.mark _) fun _ => rfl]
  | unmark home name => exact unmarked home name
  | answer home answered passed =>
    rwa [blueprint?_updateLoader (fun loader => loader.answer _ _) fun _ => rfl]
  | declare marked once known defined declares =>
    rw [blueprint?_placed known, if_neg (ne_next known (unmarked _ _))]
    exact unmarked _ _
  | array named known behind isRoot isCloneable isSerializable =>
    rwa [blueprint?_placed known, if_neg (ne_next known printed)]

/-- A class was there before, or it is known where it comes from. -/
theorem Change.origin (change : before.Change after)
    (printed : after.blueprint? id = some (type, initializer)) :
    before.blueprint? id = some (type, initializer) ∨ before.Origin id type initializer := by
  cases change with
  | mark home unanswered =>
    rw [blueprint?_updateLoader (fun loader => loader.mark _) fun _ => rfl] at printed
    exact Or.inl printed
  | unmark home name =>
    rw [blueprint?_updateLoader (fun loader => loader.unmark name) fun _ => rfl] at printed
    exact Or.inl printed
  | answer home answered passed =>
    rw [blueprint?_updateLoader (fun loader => loader.answer _ _) fun _ => rfl] at printed
    exact Or.inl printed
  | declare marked once known defined declares =>
    rw [blueprint?_placed known] at printed
    split at printed
    · cases printed
      exact Or.inr (.declared declares)
    · rw [blueprint?_updateLoader (fun loader => loader.unmark _) fun _ => rfl] at printed
      exact Or.inl printed
  | array named known behind isRoot isCloneable isSerializable =>
    rw [blueprint?_placed known] at printed
    split at printed
    next here =>
      cases printed
      refine Or.inr (.array ?_ behind isRoot isCloneable isSerializable)
      rw [here]
    next => exact Or.inl printed

theorem Change.typed (change : before.Change after) (known : before.type? id = some type) :
    after.type? id = some type := by
  rcases blueprint?_of_type? known with ⟨initializer, printed⟩
  exact type?_of_blueprint? (change.blueprint printed)

/-! ## What changes do to the bootstrap loader -/

section Bootstrap

variable {name : ClassName}

theorem linking_updateLoader_of_ne {home other : LoaderId} (change : Loader ι → Loader ι)
    (area : Area ι) (elsewhere : home ≠ other) :
    (area.updateLoader home change).linking other = area.linking other := by
  rw [linking, loader?_updateLoader, if_neg elsewhere, linking]

/-- A name that is marked was marked before, or it has no answer. -/
theorem Change.marked (change : before.Change after) (booted : before.Booted)
    (marked : name ∈ after.linking .bootstrap) :
    name ∈ before.linking .bootstrap ∨ before.lookup? .bootstrap name = none := by
  rcases Option.isSome_iff_exists.1 booted.known with ⟨loader, known⟩
  have unmarked (home : LoaderId) (other : ClassName)
      (member : name ∈ (before.updateLoader home fun loader => loader.unmark other).linking
        .bootstrap) : name ∈ before.linking .bootstrap := by
    by_cases here : home = .bootstrap
    · subst here
      rw [linking_updateLoader known, if_pos rfl] at member
      rw [linking_eq known]
      exact List.mem_of_mem_erase member
    · rwa [linking_updateLoader_of_ne _ _ here] at member
  cases change with
  | @mark home other unanswered =>
    by_cases here : home = .bootstrap
    · subst here
      rw [linking_mark known, List.mem_cons] at marked
      rcases marked with rfl | member
      · exact Or.inr unanswered
      · exact Or.inl member
    · rw [linking_updateLoader_of_ne _ _ here] at marked
      exact Or.inl marked
  | unmark home other => exact Or.inl (unmarked home other marked)
  | answer home answered passed =>
    rw [linking_updateLoader_of_kept (fun loader => loader.answer _ _) fun _ => rfl] at marked
    exact Or.inl marked
  | declare _ once present defined declares =>
    rw [sameFrame_placed.linking] at marked
    exact Or.inl (unmarked _ _ marked)
  | array named present behind isRoot isCloneable isSerializable =>
    rw [sameFrame_placed.linking] at marked
    exact Or.inl marked

/-- Only a marked name is given an answer, and its mark is taken off. -/
theorem Change.answer_eq_or (change : before.Change after) (booted : before.Booted)
    (ordinary : ¬ name.isArray) :
    after.lookup? .bootstrap name = before.lookup? .bootstrap name ∨
      name ∈ before.linking .bootstrap ∧ name ∉ after.linking .bootstrap := by
  cases change with
  | mark home unanswered =>
    exact Or.inl (lookup?_updateLoader (fun loader => loader.mark _) (fun _ => rfl) before _ _)
  | unmark home other =>
    exact Or.inl (lookup?_updateLoader (fun loader => loader.unmark _) (fun _ => rfl) before _ _)
  | @answer id sought home found answered passed =>
    left
    cases known : before.loader? id with
    | none => rw [updateLoader_of_unknown known]
    | some loader =>
      rw [lookup?_answer known]
      split
      next here =>
        rcases here with ⟨rfl, rfl⟩
        rcases passed with rfl | parent | array
        · exact answered.symm
        · rw [booted.top] at parent
          cases parent
        · exact absurd array ordinary
      next => rfl
  | @declare id loader sought definition type marked once known defined declares =>
    rw [lookup?_placed known, sameFrame_placed.linking]
    split
    next here =>
      rcases here with ⟨rfl, rfl⟩
      rcases Option.isSome_iff_exists.1 booted.known with ⟨earlier, there⟩
      refine Or.inr ⟨marked, ?_⟩
      rw [linking_updateLoader there, if_pos rfl]
      rwa [linking_eq there] at once
    next =>
      exact Or.inl (lookup?_updateLoader (fun loader => loader.unmark _) (fun _ => rfl) before _ _)
  | array named known behind isRoot isCloneable isSerializable =>
    left
    rw [lookup?_placed known]
    split
    next here => exact absurd (here.2 ▸ named) ordinary
    next => rfl

/-- The bootstrap loader does not revoke an answer. -/
theorem Traced.answer_change (traced : before.Traced) (booted : before.Booted)
    (change : before.Change after) (ordinary : ¬ name.isArray) {found : ClassId}
    (answered : before.lookup? .bootstrap name = some found) :
    after.lookup? .bootstrap name = some found := by
  rcases change.answer_eq_or booted ordinary with same | ⟨marked, _⟩
  · exact same.trans answered
  · rw [traced.unanswered name marked ordinary] at answered
    cases answered

end Bootstrap

/-! ## Origins last -/

theorem Declares.mono {definition : ClassDefinition ι}
    (types : ∀ {id type}, before.type? id = some type → after.type? id = some type)
    (declares : before.Declares definition type) : after.Declares definition type where
  name := declares.name
  kind := declares.kind
  component := declares.component
  closed other member := by
    rcases isSome_class?_iff.1 (declares.closed other member) with ⟨type, typed⟩
    exact isSome_class?_iff.2 ⟨type, types typed⟩

theorem Origin.mono (types : ∀ {id type}, before.type? id = some type → after.type? id = some type)
    (answers : ∀ {name found}, ¬ name.isArray → before.lookup? .bootstrap name = some found →
      after.lookup? .bootstrap name = some found)
    (origin : before.Origin id type initializer) : after.Origin id type initializer := by
  cases origin with
  | primitive primitive => exact .primitive primitive
  | declared declares => exact .declared (declares.mono types)
  | array home behind isRoot isCloneable isSerializable =>
    exact .array home (types behind) (answers (by decide) isRoot) (answers (by decide) isCloneable)
      (answers (by decide) isSerializable)

/-- The superclass of a class is one. -/
theorem Origin.known (origin : area.Origin id type initializer) (grounded : area.Grounded)
    {superclass : ClassId} (above : type.superclass = some superclass) :
    (area.class? superclass).isSome := by
  cases origin with
  | primitive => cases above
  | declared declares =>
    refine declares.closed superclass (List.mem_append_left _ (List.mem_append_left _ ?_))
    rw [above]
    exact List.mem_singleton_self superclass
  | array _ _ isRoot =>
    cases above
    exact grounded.answered isRoot

namespace Traced

theorem of_records (traced : before.Traced) (same : before.SameRecords after) : after.Traced where
  unanswered name marked ordinary := by
    rw [same.marks] at marked
    rw [same.answers]
    exact traced.unanswered name marked ordinary
  origin printed := by
    rw [same.blueprints] at printed
    exact (traced.origin printed).mono (fun typed => (same.type? _).trans typed)
      fun _ answered => (same.answers _ _).trans answered

theorem change (traced : before.Traced) (booted : before.Booted) (change : before.Change after) :
    after.Traced where
  unanswered name marked ordinary := by
    rcases change.answer_eq_or booted ordinary with same | ⟨_, unmarked⟩
    · rw [same]
      rcases change.marked booted marked with earlier | unanswered
      · exact traced.unanswered name earlier ordinary
      · exact unanswered
    · exact absurd marked unmarked
  origin printed := by
    have origin := (change.origin printed).elim traced.origin fun origin => origin
    exact origin.mono change.typed fun ordinary answered =>
      traced.answer_change booted change ordinary answered

/-- At the start there are the classes of primitive types. -/
theorem initial (definitions : List (ClassDefinition ι)) : (Area.initial definitions).Traced where
  unanswered name marked := by
    rw [linking_initial] at marked
    cases marked
  origin printed := by
    rcases Option.map_eq_some_iff.1 printed with ⟨loaded, found, same⟩
    rcases class?_initial found with ⟨primitive, rfl⟩
    cases same
    exact .primitive primitive

end Traced

end Area
end ClassRuntime

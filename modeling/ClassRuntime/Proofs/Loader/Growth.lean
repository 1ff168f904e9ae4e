import ClassRuntime.Proofs.Counting
import ClassRuntime.Proofs.Loader.Views

namespace ClassRuntime
namespace Area

/-!
# Growth

A load leaves the frame of every loader alone.  It adds classes and answers
and keeps those that are there, and it reaches no loader above the one that was
asked: parents have lower numbers than their children, and only parents and the
bootstrap loader are asked in turn.  `Grows` says so, with the asked loader as
its bound.
-/

variable {ι : Type} {before middle after area : Area ι}

/-- Two areas with the same frame at every loader. -/
def SameFrame (before after : Area ι) : Prop :=
  ∀ id, (after.loader? id).map Loader.frame = (before.loader? id).map Loader.frame

/-- What a load through the given loader can do to an area. -/
structure Grows (bound : LoaderId) (before after : Area ι) : Prop where
  frame : before.SameFrame after
  type : ∀ {id type}, before.type? id = some type → after.type? id = some type
  answers : ∀ {id name found}, before.lookup? id name = some found →
    after.lookup? id name = some found
  above : ∀ {other}, bound.index < other.index → after.loader? other = before.loader? other

namespace SameFrame

theorem trans (first : before.SameFrame middle) (second : middle.SameFrame after) :
    before.SameFrame after :=
  fun id => (second id).trans (first id)

/-- Whatever is read off the frame of a loader is the same. -/
theorem read {α : Type} (same : before.SameFrame after) (part : Loader ι → Option α)
    (framed : ∀ loader, part loader.frame = part loader) (id : LoaderId) :
    (after.loader? id).bind part = (before.loader? id).bind part := by
  have through : part = part ∘ Loader.frame := funext fun loader => (framed loader).symm
  rw [through, ← Option.bind_map, ← Option.bind_map, same id]

theorem known (same : before.SameFrame after) {id : LoaderId} {loader : Loader ι}
    (known : before.loader? id = some loader) :
    ∃ later, after.loader? id = some later ∧ later.frame = loader.frame := by
  have equal := same id
  rw [known, Option.map_some] at equal
  exact Option.map_eq_some_iff.1 equal

theorem isSome (same : before.SameFrame after) (id : LoaderId) :
    (after.loader? id).isSome = (before.loader? id).isSome := by
  rw [← Option.isSome_map (f := Loader.frame), same id, Option.isSome_map]

theorem parent? (same : before.SameFrame after) (id : LoaderId) :
    after.parent? id = before.parent? id :=
  same.read (fun loader => loader.parent) (fun _ => rfl) id

theorem definition? (same : before.SameFrame after) (id : LoaderId) (name : ClassName) :
    after.definition? id name = before.definition? id name :=
  same.read (fun loader => loader.definitions.find? name) (fun _ => rfl) id

theorem linking (same : before.SameFrame after) (id : LoaderId) :
    after.linking id = before.linking id := by
  have equal := same.read (fun loader => some loader.linking) (fun _ => rfl) id
  rw [Area.linking, Area.linking, Option.map_eq_bind, Option.map_eq_bind]
  exact congrArg (fun marks => marks.getD []) equal

end SameFrame

namespace Grows

variable {bound lower : LoaderId}

theorem refl (bound : LoaderId) (area : Area ι) : Grows bound area area where
  frame _ := rfl
  type typed := typed
  answers answered := answered
  above _ := rfl

theorem trans (first : Grows bound before middle) (second : Grows bound middle after) :
    Grows bound before after where
  frame := first.frame.trans second.frame
  type typed := second.type (first.type typed)
  answers answered := second.answers (first.answers answered)
  above higher := (second.above higher).trans (first.above higher)

/-- A load through a lower loader is one of those that a higher one can make. -/
theorem raise (grown : Grows lower before after) (below : lower.index ≤ bound.index) :
    Grows bound before after where
  frame := grown.frame
  type := grown.type
  answers := grown.answers
  above higher := grown.above (Nat.lt_of_le_of_lt below higher)

end Grows

/-- Answers that are kept still answer what they answered. -/
theorem answers_mono {id : LoaderId} {name? : Option ClassName} {found? : Option ClassId}
    (answers : ∀ {id name found}, before.lookup? id name = some found →
      after.lookup? id name = some found)
    (answered : Option.Rel (fun name other => before.lookup? id name = some other) name? found?) :
    Option.Rel (fun name other => after.lookup? id name = some other) name? found? := by
  cases answered with
  | none => exact Option.Rel.none
  | some answered => exact Option.Rel.some (answers answered)

/-! ## The effect of each change -/

/-- Changing a loader does not change what is read off its other parts. -/
theorem bind_updateLoader {α : Type} {id : LoaderId} (change : Loader ι → Loader ι)
    {part : Loader ι → Option α} (blind : ∀ loader, part (change loader) = part loader)
    (area : Area ι) (other : LoaderId) :
    ((area.updateLoader id change).loader? other).bind part =
      (area.loader? other).bind part := by
  rw [loader?_updateLoader]
  split
  · rw [Option.bind_map]
    exact congrArg _ (funext blind)
  · rfl

/-- An area is known by its loaders. -/
theorem ext_loader? {first second : Area ι} (same : ∀ id, first.loader? id = second.loader? id) :
    first = second :=
  congrArg Area.mk (Array.ext_getElem? fun index => same ⟨index⟩)

/-- There is nothing to change at a loader that does not exist. -/
theorem updateLoader_of_unknown {id : LoaderId} {change : Loader ι → Loader ι}
    (unknown : area.loader? id = none) : area.updateLoader id change = area := by
  apply ext_loader?
  intro other
  rw [loader?_updateLoader]
  split
  next same => rw [← same, unknown, Option.map_none]
  next => rfl

theorem isSome_updateLoader {id : LoaderId} (change : Loader ι → Loader ι) (area : Area ι)
    (other : LoaderId) :
    ((area.updateLoader id change).loader? other).isSome = (area.loader? other).isSome := by
  rw [loader?_updateLoader]
  split
  · rw [Option.isSome_map]
  · rfl

theorem class?_updateLoader {id : LoaderId} (change : Loader ι → Loader ι)
    (kept : ∀ loader, (change loader).classes = loader.classes) (area : Area ι)
    (other : ClassId) : (area.updateLoader id change).class? other = area.class? other :=
  bind_updateLoader change (fun loader => by rw [kept]) area other.loader

theorem type?_updateLoader {id : LoaderId} (change : Loader ι → Loader ι)
    (kept : ∀ loader, (change loader).classes = loader.classes) (area : Area ι)
    (other : ClassId) : (area.updateLoader id change).type? other = area.type? other := by
  rw [type?, class?_updateLoader change kept, type?]

theorem lookup?_updateLoader {id : LoaderId} (change : Loader ι → Loader ι)
    (kept : ∀ loader, (change loader).byName = loader.byName) (area : Area ι)
    (other : LoaderId) (name : ClassName) :
    (area.updateLoader id change).lookup? other name = area.lookup? other name :=
  bind_updateLoader change (fun loader => by rw [kept]) area other

theorem sameFrame_updateLoader {id : LoaderId} (change : Loader ι → Loader ι)
    (kept : ∀ loader, (change loader).frame = loader.frame) (area : Area ι) :
    area.SameFrame (area.updateLoader id change) := by
  intro other
  rw [loader?_updateLoader]
  split
  · cases area.loader? other with
    | none => rfl
    | some loader => simp only [Option.map_some, kept]
  · rfl

section Changes

variable (area : Area ι) (id : LoaderId) (name : ClassName) (found other : ClassId)

theorem type?_mark :
    (area.updateLoader id fun loader => loader.mark name).type? other = area.type? other :=
  type?_updateLoader (fun loader => loader.mark name) (fun _ => rfl) area other

theorem type?_unmark :
    (area.updateLoader id fun loader => loader.unmark name).type? other = area.type? other :=
  type?_updateLoader (fun loader => loader.unmark name) (fun _ => rfl) area other

theorem type?_answer :
    (area.updateLoader id fun loader => loader.answer name found).type? other =
      area.type? other :=
  type?_updateLoader (fun loader => loader.answer name found) (fun _ => rfl) area other

theorem sameFrame_answer :
    area.SameFrame (area.updateLoader id fun loader => loader.answer name found) :=
  sameFrame_updateLoader (fun loader => loader.answer name found) (fun _ => rfl) area

end Changes

theorem loader?_updateLoader_of_lt {id other : LoaderId} (change : Loader ι → Loader ι)
    (area : Area ι) (above : id.index < other.index) :
    (area.updateLoader id change).loader? other = area.loader? other := by
  have different : id ≠ other := by
    intro same
    rw [same] at above
    exact Nat.lt_irrefl _ above
  rw [loader?_updateLoader, if_neg different]

theorem lookup?_answer {id : LoaderId} {loader : Loader ι} (known : area.loader? id = some loader)
    (name : ClassName) (found : ClassId) (other : LoaderId) (sought : ClassName) :
    (area.updateLoader id fun loader => loader.answer name found).lookup? other sought =
      if id = other ∧ name = sought then some found else area.lookup? other sought := by
  simp only [lookup?, loader?_updateLoader]
  by_cases here : id = other
  · subst here
    rw [if_pos rfl, known, Option.map_some, Option.bind_some, Option.bind_some, Loader.answer,
      Table.find?_insert]
    simp only [true_and]
  · rw [if_neg here, if_neg fun both => here both.1]

theorem linking_updateLoader {id : LoaderId} {loader : Loader ι}
    (known : area.loader? id = some loader) (change : Loader ι → Loader ι) (other : LoaderId) :
    (area.updateLoader id change).linking other =
      if id = other then (change loader).linking else area.linking other := by
  rw [linking, loader?_updateLoader]
  split
  next here =>
    rw [← here, known, Option.map_some, Option.map_some, Option.getD_some]
  next => rfl

theorem linking_updateLoader_of_kept {id : LoaderId} (change : Loader ι → Loader ι)
    (kept : ∀ loader, (change loader).linking = loader.linking) (area : Area ι)
    (other : LoaderId) : (area.updateLoader id change).linking other = area.linking other := by
  rw [linking, loader?_updateLoader]
  split
  · rw [Option.map_map]
    exact congrArg (fun part => ((area.loader? other).map part).getD []) (funext kept)
  · rfl

theorem loader?_mark {id : LoaderId} {loader : Loader ι} (known : area.loader? id = some loader)
    (name : ClassName) : (area.updateLoader id fun loader => loader.mark name).loader? id =
      some (loader.mark name) := by
  rw [loader?_updateLoader, if_pos rfl, known, Option.map_some]

theorem linking_mark {id : LoaderId} {loader : Loader ι} (known : area.loader? id = some loader)
    (name : ClassName) : (area.updateLoader id fun loader => loader.mark name).linking id =
      name :: area.linking id := by
  rw [linking_updateLoader known, if_pos rfl, linking_eq known]
  rfl

theorem class?_push {id : LoaderId} {loader : Loader ι} (known : area.loader? id = some loader)
    (loaded : LoadedClass ι) (other : ClassId) :
    (area.updateLoader id fun loader => loader.push loaded).class? other =
      if other = ⟨id, loader.classes.size⟩ then some loaded else area.class? other := by
  rcases other with ⟨home, place⟩
  simp only [class?, loader?_updateLoader, ClassId.mk.injEq]
  by_cases here : id = home
  · subst here
    rw [if_pos rfl, known, Option.map_some, Option.bind_some, Option.bind_some, Loader.push,
      Array.getElem?_push]
    simp only [true_and]
  · rw [if_neg here, if_neg fun both => here both.1.symm]

/-- A name that had no answer in the beginning can be given one. -/
theorem Grows.answer {id : LoaderId} {name : ClassName} (grown : before.Grows id after)
    (unanswered : before.lookup? id name = none) (found : ClassId) :
    before.Grows id (after.updateLoader id fun loader => loader.answer name found) where
  frame := grown.frame.trans (sameFrame_answer after id name found)
  type typed := by
    rw [type?_answer]
    exact grown.type typed
  answers {other sought _} answered := by
    have kept := grown.answers answered
    rcases Option.bind_eq_some_iff.1 kept with ⟨_, knownThere, _⟩
    have different : ¬ (id = other ∧ name = sought) := by
      rintro ⟨rfl, rfl⟩
      rw [unanswered] at answered
      cases answered
    by_cases here : id = other
    · subst here
      rw [lookup?_answer knownThere, if_neg different]
      exact kept
    · rw [lookup?, loader?_updateLoader, if_neg here]
      exact kept
  above {other} higher := by
    rw [loader?_updateLoader_of_lt _ after higher]
    exact grown.above higher

theorem class?_next {id : LoaderId} {loader : Loader ι} (known : area.loader? id = some loader) :
    area.class? ⟨id, loader.classes.size⟩ = none := by
  rw [class?_eq known]
  exact Array.getElem?_eq_none (Nat.le_refl _)

theorem grows_push {id : LoaderId} {loader : Loader ι} (known : area.loader? id = some loader)
    (loaded : LoadedClass ι) :
    area.Grows id (area.updateLoader id fun loader => loader.push loaded) where
  frame := sameFrame_updateLoader (fun loader => loader.push loaded) (fun _ => rfl) area
  type {other type} typed := by
    have different : other ≠ ⟨id, loader.classes.size⟩ := by
      intro same
      rw [same, type?, class?_next known] at typed
      cases typed
    rw [type?, class?_push known, if_neg different]
    exact typed
  answers answered := by
    rw [lookup?_updateLoader (fun loader => loader.push loaded) fun _ => rfl]
    exact answered
  above := loader?_updateLoader_of_lt _ area

/-! ## A new class -/

/-- The area in which a class has been given the next place at a loader, which
answers a name with it from then on. -/
def placed (area : Area ι) (id : LoaderId) (loader : Loader ι) (name : ClassName)
    (loaded : LoadedClass ι) : Area ι :=
  (area.updateLoader id fun loader => loader.push loaded).updateLoader id fun changed =>
    changed.answer name ⟨id, loader.classes.size⟩

section Place

variable {id : LoaderId} {loader : Loader ι} {name : ClassName} {loaded : LoadedClass ι}

theorem sameFrame_placed : area.SameFrame (placed area id loader name loaded) :=
  (sameFrame_updateLoader (fun loader => loader.push loaded) (fun _ => rfl) area).trans
    (sameFrame_answer _ id name ⟨id, loader.classes.size⟩)

theorem type?_placed (known : area.loader? id = some loader) (other : ClassId) :
    (placed area id loader name loaded).type? other =
      if other = ⟨id, loader.classes.size⟩ then some loaded.toTypeDescriptor
      else area.type? other := by
  rw [placed, type?_answer, type?, class?_push known]
  split
  · rfl
  · rfl

theorem lookup?_placed (known : area.loader? id = some loader) (other : LoaderId)
    (sought : ClassName) :
    (placed area id loader name loaded).lookup? other sought =
      if id = other ∧ name = sought then some ⟨id, loader.classes.size⟩
      else area.lookup? other sought := by
  have present : (area.updateLoader id fun loader => loader.push loaded).loader? id =
      some (loader.push loaded) := by
    rw [loader?_updateLoader, if_pos rfl, known, Option.map_some]
  rw [placed, lookup?_answer present,
    lookup?_updateLoader (fun loader => loader.push loaded) fun _ => rfl]

/-- A class can be added under a name that had no answer in the beginning. -/
theorem Grows.place (grown : before.Grows id area) (known : area.loader? id = some loader)
    (unanswered : before.lookup? id name = none) :
    before.Grows id (placed area id loader name loaded) :=
  (grown.trans (grows_push known loaded)).answer unanswered _

end Place

/-! ## Changes that no lookup shows -/

/-- What a note leaves of the types. -/
theorem type?_updateClass {id : ClassId} {change : LoadedClass ι → LoadedClass ι}
    (kept : ∀ loaded, (change loaded).toTypeDescriptor = loaded.toTypeDescriptor)
    (area : Area ι) (other : ClassId) :
    (area.updateClass id change).type? other = area.type? other := by
  rw [type?, class?_updateClass]
  split
  · rw [Option.map_map]
    exact congrArg (fun part => (area.class? other).map part) (funext kept)
  · rfl

/-- What the loader can define goes by its name. -/
def Keyed (area : Area ι) (id : LoaderId) : Prop :=
  ∀ name definition, area.definition? id name = some definition → definition.name = name

/-- Loaders have the parents, the answers and the classes that they had.  They may have
been given notes, and definitions under the names of these. -/
structure Resembles (before after : Area ι) : Prop where
  known : ∀ id, (after.loader? id).isSome = (before.loader? id).isSome
  parent : ∀ id, after.parent? id = before.parent? id
  keyed : ∀ id, before.Keyed id → after.Keyed id
  answer : ∀ id name, after.lookup? id name = before.lookup? id name
  type : ∀ id, after.type? id = before.type? id

/-- A note on a loader or on its classes. -/
theorem resembles_note (area : Area ι) {id : LoaderId} (change : Loader ι → Loader ι)
    (frame : ∀ loader, (change loader).parent = loader.parent ∧
      (change loader).definitions = loader.definitions ∧ (change loader).byName = loader.byName)
    (types : ∀ other, (area.updateLoader id change).type? other = area.type? other) :
    area.Resembles (area.updateLoader id change) where
  known := isSome_updateLoader change area
  parent := bind_updateLoader change (fun loader => (frame loader).1) area
  keyed home keyed name definition found := by
    rw [definition?, bind_updateLoader change fun loader => by rw [(frame loader).2.1]] at found
    exact keyed name definition found
  answer := lookup?_updateLoader change (fun loader => (frame loader).2.2) area
  type := types

theorem resembles_mark (area : Area ι) (id : LoaderId) (name : ClassName) :
    area.Resembles (area.updateLoader id fun loader => loader.mark name) :=
  resembles_note area (fun loader => loader.mark name) (fun _ => ⟨rfl, rfl, rfl⟩)
    (type?_mark area id name)

theorem resembles_unmark (area : Area ι) (id : LoaderId) (name : ClassName) :
    area.Resembles (area.updateLoader id fun loader => loader.unmark name) :=
  resembles_note area (fun loader => loader.unmark name) (fun _ => ⟨rfl, rfl, rfl⟩)
    (type?_unmark area id name)

theorem resembles_hand (area : Area ι) (id : LoaderId) (handle : Option Object) :
    area.Resembles (area.updateLoader id fun loader => { loader with handle }) :=
  resembles_note area (fun loader => { loader with handle }) (fun _ => ⟨rfl, rfl, rfl⟩)
    (type?_updateLoader (fun loader => { loader with handle }) (fun _ => rfl) area)

theorem resembles_updateClass (area : Area ι) (id : ClassId)
    {change : LoadedClass ι → LoadedClass ι}
    (kept : ∀ loaded, (change loaded).toTypeDescriptor = loaded.toTypeDescriptor) :
    area.Resembles (area.updateClass id change) :=
  resembles_note area _ (fun _ => ⟨rfl, rfl, rfl⟩) (type?_updateClass kept area)

/-! ## Counting over all loaders -/

/-- The sum of a number over all loaders. -/
def total (part : Loader ι → Nat) (area : Area ι) : Nat :=
  sumOver part area.loaders.toList

/-- Changing one loader changes one term of a sum. -/
theorem total_updateLoader (part : Loader ι → Nat) {id : LoaderId} {loader : Loader ι}
    (known : area.loader? id = some loader) (change : Loader ι → Loader ι) :
    (area.updateLoader id change).total part + part loader =
      area.total part + part (change loader) := by
  have here : area.loaders.toList[id.index]? = some loader := by
    rw [Array.getElem?_toList]
    exact known
  rw [total, total, updateLoader, Array.toList_modify]
  exact sumOver_modify part change here

/-- A sum does not see a change that it does not depend on. -/
theorem total_updateLoader_of_kept {part : Loader ι → Nat} (area : Area ι) {id : LoaderId}
    {change : Loader ι → Loader ι} (kept : ∀ loader, part (change loader) = part loader) :
    (area.updateLoader id change).total part = area.total part := by
  cases known : area.loader? id with
  | none => rw [updateLoader_of_unknown known]
  | some loader =>
    have sums := total_updateLoader part known change
    rw [kept] at sums
    omega

theorem SameFrame.total (same : before.SameFrame after) (part : Loader ι → Nat)
    (framed : ∀ loader, part loader.frame = part loader) :
    after.total part = before.total part := by
  have frames : after.loaders.toList.map Loader.frame = before.loaders.toList.map Loader.frame := by
    apply List.ext_getElem?
    intro index
    rw [List.getElem?_map, List.getElem?_map, Array.getElem?_toList, Array.getElem?_toList]
    exact same ⟨index⟩
  have through : part = part ∘ Loader.frame := by
    funext loader
    exact (framed loader).symm
  rw [Area.total, Area.total, through, ← sumOver_map, ← sumOver_map, frames]

end Area
end ClassRuntime

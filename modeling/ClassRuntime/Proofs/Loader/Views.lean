import ClassRuntime.Loader.Loading
import ClassRuntime.Proofs.Handle
import Mathlib.Logic.Relation

namespace ClassRuntime

/-!
# What can be seen of an area

The invariants of an area speak about it through a few questions: which parent
and which definitions a loader has, what it answers to a name, and what type
is behind a handle.  Loading makes four kinds of changes to an area, and each
is described here by its effect on the answers.  What a load leaves as it is
in a loader is called its frame.
-/

namespace Loader

variable {ι : Type}

/-- What a load leaves as it is: everything but the classes and the names that
have been resolved. -/
def frame (loader : Loader ι) : Loader ι :=
  { loader with classes := #[], byName := .empty }

/-- The loader with one more class. -/
def push (loader : Loader ι) (loaded : LoadedClass ι) : Loader ι :=
  { loader with classes := loader.classes.push loaded }

/-- The loader that answers a name with a class. -/
def answer (loader : Loader ι) (name : ClassName) (found : ClassId) : Loader ι :=
  { loader with byName := loader.byName.insert name found }

/-- The loader that is linking one more definition. -/
def mark (loader : Loader ι) (name : ClassName) : Loader ι :=
  { loader with linking := name :: loader.linking }

/-- The loader that has ended linking a definition. -/
def unmark (loader : Loader ι) (name : ClassName) : Loader ι :=
  { loader with linking := loader.linking.erase name }

end Loader

namespace Area

variable {ι : Type}

/-- The parent of a loader. -/
def parent? (area : Area ι) (id : LoaderId) : Option LoaderId :=
  (area.loader? id).bind fun loader => loader.parent

/-- What a loader can define under a name. -/
def definition? (area : Area ι) (id : LoaderId) (name : ClassName) :
    Option (ClassDefinition ι) :=
  (area.loader? id).bind fun loader => loader.definitions.find? name

/-- What a loader answers to a name without loading anything. -/
def lookup? (area : Area ι) (id : LoaderId) (name : ClassName) : Option ClassId :=
  (area.loader? id).bind fun loader => loader.byName.find? name

/-- The type behind a handle. -/
def type? (area : Area ι) (id : ClassId) : Option TypeDescriptor :=
  (area.class? id).map fun loaded => loaded.toTypeDescriptor

/-- The definitions that a loader is linking. -/
def linking (area : Area ι) (id : LoaderId) : List ClassName :=
  ((area.loader? id).map fun loader => loader.linking).getD []

/-- A loader is asked on behalf of itself and of every loader below it. -/
def Delegates (area : Area ι) : LoaderId → LoaderId → Prop :=
  Relation.ReflTransGen fun child parent => area.parent? child = some parent

/-! ## Looking things up -/

theorem loader_eq_ok {area : Area ι} {id : LoaderId} {loader : Loader ι}
    (known : area.loader? id = some loader) : area.loader id = .ok loader := by
  rw [Area.loader, known]

theorem loader_eq_error {area : Area ι} {id : LoaderId} (unknown : area.loader? id = none) :
    area.loader id = .error (.danglingLoader id) := by
  rw [Area.loader, unknown]

theorem lookup?_eq {area : Area ι} {id : LoaderId} {loader : Loader ι}
    (known : area.loader? id = some loader) (name : ClassName) :
    area.lookup? id name = loader.byName.find? name := by
  rw [lookup?, known, Option.bind_some]

theorem definition?_eq {area : Area ι} {id : LoaderId} {loader : Loader ι}
    (known : area.loader? id = some loader) (name : ClassName) :
    area.definition? id name = loader.definitions.find? name := by
  rw [definition?, known, Option.bind_some]

theorem parent?_eq {area : Area ι} {id : LoaderId} {loader : Loader ι}
    (known : area.loader? id = some loader) : area.parent? id = loader.parent := by
  rw [parent?, known, Option.bind_some]

theorem linking_eq {area : Area ι} {id : LoaderId} {loader : Loader ι}
    (known : area.loader? id = some loader) : area.linking id = loader.linking := by
  rw [linking, known, Option.map_some, Option.getD_some]

theorem class?_eq {area : Area ι} {id : ClassId} {loader : Loader ι}
    (known : area.loader? id.loader = some loader) :
    area.class? id = loader.classes[id.index]? := by
  rw [class?, known, Option.bind_some]

theorem class?_of_type? {area : Area ι} {id : ClassId} {type : TypeDescriptor}
    (typed : area.type? id = some type) :
    ∃ loaded, area.class? id = some loaded ∧ loaded.toTypeDescriptor = type :=
  Option.map_eq_some_iff.1 typed

theorem type?_of_class? {area : Area ι} {id : ClassId} {loaded : LoadedClass ι}
    (found : area.class? id = some loaded) :
    area.type? id = some loaded.toTypeDescriptor := by
  rw [type?, found, Option.map_some]

theorem loadedClass_eq_ok {area : Area ι} {id : ClassId} {loaded : LoadedClass ι}
    (found : area.class? id = some loaded) : area.loadedClass id = .ok loaded := by
  rcases Option.bind_eq_some_iff.1 found with ⟨loader, known, place⟩
  rw [loadedClass, loader_eq_ok known]
  simp only [bind, Except.bind, place]

theorem class?_of_loadedClass {area : Area ι} {id : ClassId} {loaded : LoadedClass ι}
    (read : area.loadedClass id = .ok loaded) : area.class? id = some loaded := by
  rw [loadedClass] at read
  cases known : area.loader? id.loader with
  | none =>
    rw [loader_eq_error known] at read
    cases read
  | some loader =>
    rw [loader_eq_ok known] at read
    simp only [bind, Except.bind] at read
    rw [class?_eq known]
    split at read
    next place =>
      cases read
      exact place
    next => cases read

theorem loader?_of_parent? {area : Area ι} {id parent : LoaderId}
    (asked : area.parent? id = some parent) : ∃ loader, area.loader? id = some loader := by
  rcases Option.bind_eq_some_iff.1 asked with ⟨loader, known, _⟩
  exact ⟨loader, known⟩

theorem loader?_isSome_iff {area : Area ι} {id : LoaderId} :
    (area.loader? id).isSome ↔ id.index < area.loaders.size := by
  simp [loader?]

/-! ## Outcomes of the elementary actions -/

@[simp] theorem outcome_getLoader (id : LoaderId) (area : Area ι) :
    (getLoader id).outcome area = (area.loader id, area) := by
  simp only [getLoader, Action.outcome_bind, Action.outcome_get, Action.outcome_ofExcept]

@[simp] theorem outcome_getClass (id : ClassId) (area : Area ι) :
    (getClass id).outcome area = (area.loadedClass id, area) := by
  simp only [getClass, Action.outcome_bind, Action.outcome_get, Action.outcome_ofExcept]

@[simp] theorem outcome_remember (id : LoaderId) (name : ClassName) (found : ClassId)
    (area : Area ι) :
    (remember id name found).outcome area =
      (.ok ⟨⟩, area.updateLoader id fun loader => loader.answer name found) :=
  rfl

@[simp] theorem outcome_beginLinking (id : LoaderId) (name : ClassName) (area : Area ι) :
    (beginLinking id name).outcome area =
      (.ok ⟨⟩, area.updateLoader id fun loader => loader.mark name) :=
  rfl

@[simp] theorem outcome_endLinking (id : LoaderId) (name : ClassName) (area : Area ι) :
    (endLinking id name).outcome area =
      (.ok ⟨⟩, area.updateLoader id fun loader => loader.unmark name) :=
  rfl

theorem outcome_addClass {area : Area ι} {id : LoaderId} {loader : Loader ι}
    (known : area.loader? id = some loader) (loaded : LoadedClass ι) :
    (addClass id loaded).outcome area =
      (.ok ⟨id, loader.classes.size⟩, area.updateLoader id fun loader => loader.push loaded) := by
  simp only [addClass, Action.outcome_bind, outcome_getLoader, loader_eq_ok known,
    Action.outcome_modify, Action.outcome_pure]
  rfl

end Area
end ClassRuntime

import ClassRuntime.Proofs.Loader.Resolution
import ClassRuntime.Proofs.Loader.WellFormed
import Mathlib.Data.List.Forall2

namespace ClassRuntime
namespace Area

/-!
# What an area remembers

Loading fills an area with classes and answers.  The invariant of this file
says where they come from, in terms of a base: the area as it was before any
load.  A class is built from a definition of its loader, after the parent has
not found its name, and what its definition demands is answered by its loader.
An answer that is another loader's class is that of the parent.

So every answer can be traced back through earlier classes and parents, and it
is the one that resolution gives.  Names with a mark do not get in the way:
they have no answer yet, and whatever an answer rests on has one.
-/

variable {ι : Type} {base before after area : Area ι}

/-- Where the classes of a loader are said to come from. -/
def source? (area : Area ι) (id : LoaderId) : Option Source :=
  (area.loader? id).bind fun loader => some loader.source

/-- Two areas with the same loaders and definitions. -/
structure SamePlan (base area : Area ι) : Prop where
  parent : ∀ id, area.parent? id = base.parent? id
  definition : ∀ id name, area.definition? id name = base.definition? id name
  source : ∀ id, area.source? id = base.source? id

/-- The parent, if there is one, does not find the class. -/
def Missing (base : Area ι) (id : LoaderId) (name : ClassName) : Prop :=
  ∀ parent, base.parent? id = some parent →
    ∃ missing, base.Resolves (.load [] parent name) (.error (.classNotFound missing))

/-- The class has been built from a definition of its loader. -/
structure Built (base area : Area ι) (id : ClassId) (type : TypeDescriptor)
    (definition : ClassDefinition ι) : Prop where
  defined : base.definition? id.loader type.name = some definition
  kind : type.kind = definition.kind
  flags : type.flags = definition.flags
  enclosure : type.enclosure = definition.enclosure
  component : type.component = none
  source : base.source? id.loader = some type.source
  superclass : Option.Rel (fun name other => area.lookup? id.loader name = some other)
    definition.inheritedName? type.superclass
  interfaces : List.Forall₂ (fun name other => area.lookup? id.loader name = some other)
    definition.interfaces type.interfaces
  missing : base.Missing id.loader type.name

/-- A class that is neither an array nor primitive has been built. -/
def Made (base area : Area ι) (id : ClassId) (type : TypeDescriptor) : Prop :=
  ¬ type.name.isArray → type.kind ≠ .primitive → ∃ definition, base.Built area id type definition

/-- What an answer rests on. -/
structure Justified (base area : Area ι) (id : LoaderId) (name : ClassName) (found : ClassId) :
    Prop where
  delegated : ¬ name.isArray → found.loader ≠ id →
    ∃ parent, base.parent? id = some parent ∧ area.lookup? parent name = some found
  array : name.isArray → ∃ componentName component, name.component? = some componentName ∧
    area.lookup? id componentName = some component ∧ found.loader = component.loader

/-- The classes and answers of an area have come about by loading. -/
structure Memory (base area : Area ι) : Prop where
  plan : base.SamePlan area
  primitives : ∀ primitive, ∃ id : ClassId, id.loader = .bootstrap ∧
    area.type? id = some (Loader.primitiveType primitive)
  made : ∀ {id type}, area.type? id = some type → base.Made area id type
  answers : ∀ {id name found}, area.lookup? id name = some found →
    base.Justified area id name found
  /-- A name with a mark has no answer, not even from the parent. -/
  awaited : ∀ {id name}, name ∈ area.linking id →
    area.lookup? id name = none ∧ base.Missing id name

/-! ## Facts last -/

theorem SamePlan.trans {middle : Area ι} (first : before.SamePlan middle)
    (second : middle.SamePlan after) : before.SamePlan after where
  parent id := (second.parent id).trans (first.parent id)
  definition id name := (second.definition id name).trans (first.definition id name)
  source id := (second.source id).trans (first.source id)

theorem SameFrame.samePlan (same : before.SameFrame after) : before.SamePlan after where
  parent := same.parent?
  definition := same.definition?
  source := same.read (fun loader => some loader.source) fun _ => rfl

/-- A change of what a loader is linking is none of its plan. -/
theorem samePlan_relink {id : LoaderId} (change : Loader ι → Loader ι)
    (kept : ∀ loader, change loader = { loader with linking := (change loader).linking })
    (area : Area ι) : area.SamePlan (area.updateLoader id change) where
  parent := bind_updateLoader change (fun loader => by rw [kept loader]) area
  definition other name := bind_updateLoader change (fun loader => by rw [kept loader]) area other
  source := bind_updateLoader change (fun loader => by rw [kept loader]) area

theorem Built.mono {id : ClassId} {type : TypeDescriptor} {definition : ClassDefinition ι}
    (answers : ∀ {id name found}, before.lookup? id name = some found →
      after.lookup? id name = some found)
    (built : base.Built before id type definition) : base.Built after id type definition :=
  { built with
    superclass := answers_mono answers built.superclass
    interfaces := built.interfaces.imp fun _ _ => answers }

theorem Made.mono {id : ClassId} {type : TypeDescriptor}
    (answers : ∀ {id name found}, before.lookup? id name = some found →
      after.lookup? id name = some found)
    (made : base.Made before id type) : base.Made after id type := by
  intro ordinary reference
  rcases made ordinary reference with ⟨definition, built⟩
  exact ⟨definition, built.mono answers⟩

theorem Justified.mono {id : LoaderId} {name : ClassName} {found : ClassId}
    (answers : ∀ {id name found}, before.lookup? id name = some found →
      after.lookup? id name = some found)
    (justified : base.Justified before id name found) : base.Justified after id name found where
  delegated ordinary elsewhere := by
    rcases justified.delegated ordinary elsewhere with ⟨parent, below, answered⟩
    exact ⟨parent, below, answers answered⟩
  array array := by
    rcases justified.array array with ⟨componentName, component, shape, answered, home⟩
    exact ⟨componentName, component, shape, answers answered, home⟩

/-- Memory lasts if what is new in an area is made and justified. -/
theorem Memory.extend (memory : base.Memory before) (plan : base.SamePlan after)
    (types : ∀ {id type}, before.type? id = some type → after.type? id = some type)
    (answers : ∀ {id name found}, before.lookup? id name = some found →
      after.lookup? id name = some found)
    (made : ∀ {id type}, after.type? id = some type →
      before.type? id = some type ∨ base.Made after id type)
    (justified : ∀ {id name found}, after.lookup? id name = some found →
      before.lookup? id name = some found ∨ base.Justified after id name found)
    (awaited : ∀ {id name}, name ∈ after.linking id →
      after.lookup? id name = none ∧ base.Missing id name) : base.Memory after where
  plan := plan
  primitives primitive := by
    rcases memory.primitives primitive with ⟨id, home, typed⟩
    exact ⟨id, home, types typed⟩
  made typed := by
    rcases made typed with old | new
    · exact (memory.made old).mono answers
    · exact new
  answers answered := by
    rcases justified answered with old | new
    · exact (memory.answers old).mono answers
    · exact new
  awaited := awaited

/-! ## Each change keeps the memory -/

namespace Memory

variable {id : LoaderId} {loader : Loader ι} {name : ClassName}

/-- A change of what a loader is linking concerns only the names with a mark. -/
private theorem remark (memory : base.Memory area) (change : Loader ι → Loader ι)
    (kept : ∀ loader, change loader = { loader with linking := (change loader).linking })
    (awaited : ∀ {home sought}, sought ∈ (area.updateLoader id change).linking home →
      area.lookup? home sought = none ∧ base.Missing home sought) :
    base.Memory (area.updateLoader id change) := by
  have types (other : ClassId) : (area.updateLoader id change).type? other = area.type? other :=
    type?_updateLoader change (fun loader => by rw [kept loader]) area other
  have answers (other : LoaderId) (sought : ClassName) :
      (area.updateLoader id change).lookup? other sought = area.lookup? other sought :=
    lookup?_updateLoader change (fun loader => by rw [kept loader]) area other sought
  refine memory.extend (memory.plan.trans (samePlan_relink change kept area))
    (fun {other _} typed => (types other).trans typed)
    (fun {other sought _} answered => (answers other sought).trans answered)
    (fun {other _} typed => Or.inl ((types other).symm.trans typed))
    (fun {other sought _} answered => Or.inl ((answers other sought).symm.trans answered))
    fun {other sought} member => ?_
  rw [answers]
  exact awaited member

theorem mark (memory : base.Memory area) (known : area.loader? id = some loader)
    (unanswered : area.lookup? id name = none) (missing : base.Missing id name) :
    base.Memory (area.updateLoader id fun loader => loader.mark name) := by
  refine memory.remark (fun loader => loader.mark name) (fun _ => rfl)
    fun {home sought} member => ?_
  rw [linking_updateLoader known] at member
  split at member
  next here =>
    subst here
    rcases List.mem_cons.1 member with rfl | earlier
    · exact ⟨unanswered, missing⟩
    · rw [← linking_eq known] at earlier
      exact memory.awaited earlier
  next => exact memory.awaited member

theorem unmark (memory : base.Memory area) (known : area.loader? id = some loader)
    (name : ClassName) : base.Memory (area.updateLoader id fun loader => loader.unmark name) := by
  refine memory.remark (fun loader => loader.unmark name) (fun _ => rfl)
    fun {home sought} member => ?_
  rw [linking_updateLoader known] at member
  split at member
  next here =>
    subst here
    have earlier := List.mem_of_mem_erase member
    rw [← linking_eq known] at earlier
    exact memory.awaited earlier
  next => exact memory.awaited member

theorem answer (memory : base.Memory area) (known : area.loader? id = some loader)
    {found : ClassId} (vacant : ∀ other, area.lookup? id name = some other → other = found)
    (justified : base.Justified area id name found) (unmarked : name ∉ area.linking id) :
    base.Memory (area.updateLoader id fun loader => loader.answer name found) := by
  have frame := sameFrame_answer area id name found
  have types := type?_answer area id name found
  have answers {home : LoaderId} {sought : ClassName} {other : ClassId}
      (answered : area.lookup? home sought = some other) :
      (area.updateLoader id fun loader => loader.answer name found).lookup? home sought =
        some other := by
    rw [lookup?_answer known]
    split
    next here =>
      rcases here with ⟨rfl, rfl⟩
      rw [vacant other answered]
    next => exact answered
  refine memory.extend (memory.plan.trans frame.samePlan)
    (fun {other _} typed => (types other).trans typed) answers
    (fun {other _} typed => Or.inl ((types other).symm.trans typed))
    (fun {home sought other} answered => ?_) fun {home sought} member => ?_
  · rw [lookup?_answer known] at answered
    split at answered
    next here =>
      rcases here with ⟨rfl, rfl⟩
      cases answered
      exact Or.inr (justified.mono answers)
    next => exact Or.inl answered
  · rw [frame.linking] at member
    rw [lookup?_answer known, if_neg]
    · exact memory.awaited member
    · rintro ⟨rfl, rfl⟩
      exact unmarked member

theorem place (memory : base.Memory area) (known : area.loader? id = some loader)
    {loaded : LoadedClass ι} (unanswered : area.lookup? id name = none)
    (made : base.Made area ⟨id, loader.classes.size⟩ loaded.toTypeDescriptor)
    (justified : base.Justified area id name ⟨id, loader.classes.size⟩)
    (unmarked : name ∉ area.linking id) : base.Memory (placed area id loader name loaded) := by
  have frame : area.SameFrame (placed area id loader name loaded) := sameFrame_placed
  have grown : area.Grows id (placed area id loader name loaded) :=
    (Grows.refl id area).place known unanswered
  refine memory.extend (memory.plan.trans frame.samePlan) grown.type grown.answers
    (fun {other type} typed => ?_) (fun {home sought other} answered => ?_)
    fun {home sought} member => ?_
  · rw [type?_placed known] at typed
    split at typed
    next here =>
      subst here
      cases typed
      exact Or.inr (made.mono grown.answers)
    next => exact Or.inl typed
  · rw [lookup?_placed known] at answered
    split at answered
    next here =>
      rcases here with ⟨rfl, rfl⟩
      cases answered
      exact Or.inr (justified.mono grown.answers)
    next => exact Or.inl answered
  · rw [frame.linking] at member
    rw [lookup?_placed known, if_neg]
    · exact memory.awaited member
    · rintro ⟨rfl, rfl⟩
      exact unmarked member

/-- A loader can go on answering what it answers. -/
theorem answer_again (memory : base.Memory area) (known : area.loader? id = some loader)
    {found : ClassId} (answered : area.lookup? id name = some found) :
    base.Memory (area.updateLoader id fun loader => loader.answer name found) := by
  refine memory.answer known (fun other again => ?_) (memory.answers answered) fun marked => ?_
  · rw [answered] at again
    exact (Option.some.inj again).symm
  · rw [(memory.awaited marked).1] at answered
    cases answered

/-- An array that a loader answers lives with the component that it answers. -/
theorem array_home (memory : base.Memory area) (array : name.isArray) {componentName : ClassName}
    {component found : ClassId} (shape : name.component? = some componentName)
    (componentAnswered : area.lookup? id componentName = some component)
    (answered : area.lookup? id name = some found) : found.loader = component.loader := by
  rcases (memory.answers answered).array array with ⟨_, other, shapeAgain, otherAnswered, home⟩
  rw [shape] at shapeAgain
  cases shapeAgain
  rw [componentAnswered] at otherAnswered
  cases otherAnswered
  exact home

/-- The array that the component's loader answers can be answered by a loader that
answers the component. -/
theorem answer_array (memory : base.Memory area) (fine : area.WellFormed)
    (known : area.loader? id = some loader) (array : name.isArray) {componentName : ClassName}
    {component found : ClassId} (shape : name.component? = some componentName)
    (componentAnswered : area.lookup? id componentName = some component)
    (answered : area.lookup? component.loader name = some found) :
    base.Memory (area.updateLoader id fun loader => loader.answer name found) := by
  rcases fine.answered componentAnswered with ⟨_, element, behind, rfl⟩
  have home := memory.array_home array shape (fine.recorded behind) answered
  refine memory.answer known (fun other answeredHere => ?_)
    ⟨fun notArray => absurd array notArray, fun _ => ?_⟩ fun marked => (fine.marked marked).1 array
  · rcases fine.answered answeredHere with ⟨_, type, typed, named⟩
    rcases fine.answered answered with ⟨_, foundType, typedFound, namedFound⟩
    have homeOther := memory.array_home array shape componentAnswered answeredHere
    exact fine.unique typed typedFound (homeOther.trans home.symm) (named.trans namedFound.symm)
  · exact ⟨element.name, component, shape, componentAnswered, home⟩

/-- The bootstrap loader has no parent. -/
theorem top (memory : base.Memory area) (fine : area.WellFormed) :
    base.parent? .bootstrap = none := by
  cases below : base.parent? .bootstrap with
  | none => rfl
  | some parent =>
    have lower := fine.descending ((memory.plan.parent _).trans below)
    exact absurd lower (Nat.not_lt_zero _)

end Memory
end Area
end ClassRuntime

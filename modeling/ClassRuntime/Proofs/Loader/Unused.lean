import ClassRuntime.Proofs.Loader.Faithful
import ClassRuntime.Proofs.Loader.Reachable

namespace ClassRuntime

/-!
# Areas before and after loading

Before the first load an area has loaders and definitions, but no classes except
the primitive ones and no answers except for their keywords.  Such an area is a
base for its own memory.  It stays one whatever is loaded from then on.
-/

namespace Area

variable {ι : Type} {base area : Area ι}

/-- The areas in which nothing has been loaded yet. -/
inductive Unused : Area ι → Prop
  | initial (definitions : List (ClassDefinition ι)) : Unused (.initial definitions)
  | addLoader {area : Area ι} (name : String) (source : Source) (parent : Option LoaderId)
      (issued : ∀ known ∈ parent, (area.loader? known).isSome) :
      Unused area → Unused ((addLoader name source parent).outcome area).2
  | addDefinition {area : Area ι} (id : LoaderId) (definition : ClassDefinition ι) :
      Unused area → Unused ((addDefinition id definition).outcome area).2

theorem Unused.reachable (unused : area.Unused) : area.Reachable := by
  induction unused with
  | initial definitions => exact .initial definitions
  | addLoader name source parent issued _ inductiveStep =>
    exact .addLoader name source parent issued inductiveStep
  | addDefinition id definition _ inductiveStep => exact .addDefinition id definition inductiveStep

/-- What can be seen of an area in which nothing has been loaded. -/
structure Bare (area : Area ι) : Prop where
  type : ∀ {id type}, area.type? id = some type →
    id.loader = .bootstrap ∧ ∃ primitive, type = Loader.primitiveType primitive
  primitives : ∀ primitive, ∃ id : ClassId, id.loader = .bootstrap ∧
    area.type? id = some (Loader.primitiveType primitive)
  answers : ∀ {id name found}, area.lookup? id name = some found →
    id = .bootstrap ∧ found.loader = .bootstrap ∧ name.isPrimitive
  unlinked : ∀ id, area.linking id = []
  /-- Every loader but the first has a parent. -/
  parents : ∀ {id}, (area.loader? id).isSome →
    id = .bootstrap ∨ ∃ parent, area.parent? id = some parent

theorem bare_initial (definitions : List (ClassDefinition ι)) : (initial definitions).Bare where
  type {id type} typed := by
    rw [type?_initial] at typed
    split at typed
    next here =>
      rcases Option.map_eq_some_iff.1 typed with ⟨primitive, _, rfl⟩
      exact ⟨here, primitive, rfl⟩
    next => cases typed
  primitives primitive := by
    have listed : primitive ∈ Primitive.all := by
      cases primitive with
      | void => decide
      | value type => cases type <;> decide
    rcases List.mem_iff_getElem?.1 listed with ⟨index, place⟩
    refine ⟨⟨.bootstrap, index⟩, rfl, ?_⟩
    rw [type?_initial, if_pos rfl, place, Option.map_some]
  answers {id name found} answered := by
    rcases lookup?_initial answered with ⟨here, index, primitive, _, rfl, rfl⟩
    exact ⟨here, rfl, ClassName.isPrimitive_keyword primitive⟩
  unlinked := linking_initial definitions
  parents {id} known := by
    rw [loader?_initial] at known
    split at known
    next here => exact Or.inl here
    next => cases known

theorem Bare.addLoader (bare : area.Bare) (name : String) (source : Source)
    (parent : Option LoaderId) : ((addLoader name source parent).outcome area).2.Bare := by
  have added := loader?_addLoader area name source parent
  constructor
  · intro id type typed
    rw [type?, class?, added] at typed
    split at typed
    · cases typed
    · exact bare.type typed
  · intro primitive
    rcases bare.primitives primitive with ⟨id, home, typed⟩
    exact ⟨id, home, type?_addLoader_of_some name source parent typed⟩
  · intro id sought found answered
    rw [lookup?, added] at answered
    split at answered
    · cases answered
    · exact bare.answers answered
  · intro id
    rw [linking, added]
    split
    · rfl
    · exact bare.unlinked id
  · intro id known
    rw [added] at known
    split at known
    next last =>
      refine Or.inr ⟨parent.getD .bootstrap, ?_⟩
      rw [parent?, added, if_pos last]
      rfl
    next =>
      rcases bare.parents known with here | ⟨above, asked⟩
      · exact Or.inl here
      · exact Or.inr ⟨above, parent?_addLoader_of_some name source parent asked⟩

theorem Bare.addDefinition (bare : area.Bare) (id : LoaderId) (definition : ClassDefinition ι) :
    ((addDefinition id definition).outcome area).2.Bare := by
  rw [outcome_addDefinition]
  have types (other : ClassId) :
      (area.updateLoader id fun loader => loader.addDefinition definition).type? other =
        area.type? other :=
    type?_updateLoader (fun loader => loader.addDefinition definition) (fun _ => rfl) area other
  constructor
  · intro other type typed
    rw [types] at typed
    exact bare.type typed
  · intro primitive
    rcases bare.primitives primitive with ⟨other, home, typed⟩
    exact ⟨other, home, (types other).trans typed⟩
  · intro other name found answered
    rw [lookup?_updateLoader (fun loader => loader.addDefinition definition) fun _ => rfl]
      at answered
    exact bare.answers answered
  · intro other
    rw [linking_updateLoader_of_kept (fun loader => loader.addDefinition definition) fun _ => rfl]
    exact bare.unlinked other
  · intro other known
    rw [isSome_updateLoader] at known
    rw [parent?, bind_updateLoader (fun loader => loader.addDefinition definition) fun _ => rfl]
    exact bare.parents known

theorem Unused.bare (unused : area.Unused) : area.Bare := by
  induction unused with
  | initial definitions => exact bare_initial definitions
  | addLoader name source parent _ _ bare => exact bare.addLoader name source parent
  | addDefinition id definition _ bare => exact bare.addDefinition id definition

/-- An area in which nothing has been loaded is a base for its own memory. -/
theorem Bare.memory (bare : base.Bare) : base.Memory base where
  plan := ⟨fun _ => rfl, fun _ _ => rfl, fun _ => rfl⟩
  primitives := bare.primitives
  made typed _ reference := by
    rcases bare.type typed with ⟨_, primitive, rfl⟩
    exact absurd rfl reference
  answers {id name found} answered := by
    rcases bare.answers answered with ⟨rfl, home, keyword⟩
    exact ⟨fun _ elsewhere => absurd home elsewhere,
      fun array => absurd array (ClassName.not_isArray_of_isPrimitive keyword)⟩
  awaited member := by
    rw [bare.unlinked] at member
    cases member

/-- The bootstrap loader is asked on behalf of every loader. -/
theorem Bare.rooted (bare : base.Bare) (fine : base.WellFormed) {id : LoaderId}
    (known : (base.loader? id).isSome) : base.Delegates id .bootstrap := by
  rcases bare.parents known with rfl | ⟨parent, below⟩
  · exact Relation.ReflTransGen.refl
  · have lower := fine.descending below
    exact Relation.ReflTransGen.head below (bare.rooted fine (fine.parent_known below))
termination_by id.index

/-! ## Loading on a base -/

/-- An area that has come about from a base by loading. -/
structure Grown (base area : Area ι) : Prop where
  fine : area.WellFormed
  memory : base.Memory area
  frame : base.SameFrame area
  unlinked : ∀ id, area.linking id = []

theorem Unused.grown (unused : base.Unused) : base.Grown base where
  fine := unused.reachable.wellFormed
  memory := unused.bare.memory
  frame _ := rfl
  unlinked := unused.bare.unlinked

theorem Grown.load (grown : base.Grown area) (id : LoaderId) (name : ClassName) :
    base.Grown ((load id name).outcome area).2 := by
  cases known : area.loader? id with
  | none =>
    rw [outcome_load_unknown known]
    exact grown
  | some loader =>
    have present := Option.isSome_iff_exists.2 ⟨loader, known⟩
    have safe := safe_load name grown.fine present
    have recalls := recalls_load name grown.fine grown.memory present grown.unlinked
    refine ⟨safe.wellFormed, recalls.memory, grown.frame.trans safe.grows.frame, fun other => ?_⟩
    rw [safe.grows.frame.linking]
    exact grown.unlinked other

/-- Nothing is loaded when something is noted about a class. -/
theorem Grown.updateClass (grown : base.Grown area) (id : ClassId)
    {change : LoadedClass ι → LoadedClass ι}
    (kept : ∀ loaded, (change loaded).toTypeDescriptor = loaded.toTypeDescriptor) :
    base.Grown (area.updateClass id change) := by
  let note (loader : Loader ι) : Loader ι :=
    { loader with classes := loader.classes.modify id.index change }
  have types (other : ClassId) : (area.updateClass id change).type? other = area.type? other :=
    type?_updateClass kept area other
  have answers (home : LoaderId) (name : ClassName) :
      (area.updateClass id change).lookup? home name = area.lookup? home name :=
    lookup?_updateLoader note (fun _ => rfl) area home name
  have frame : base.SameFrame (area.updateClass id change) :=
    grown.frame.trans (sameFrame_updateLoader note (fun _ => rfl) area)
  have unlinked (home : LoaderId) : (area.updateClass id change).linking home = [] :=
    (linking_updateLoader_of_kept note (fun _ => rfl) area home).trans (grown.unlinked home)
  refine ⟨wellFormed_updateClass grown.fine id kept, ?_, frame, unlinked⟩
  refine grown.memory.extend frame.samePlan (fun {other _} typed => (types other).trans typed)
    (fun {home name _} answered => (answers home name).trans answered)
    (fun {other _} typed => .inl ((types other).symm.trans typed))
    (fun {home name _} answered => .inl ((answers home name).symm.trans answered)) ?_
  intro home name member
  rw [unlinked] at member
  cases member

/-- The area after a number of loads, whatever comes of them. -/
def loadAll (requests : List (LoaderId × ClassName)) (area : Area ι) : Area ι :=
  requests.foldl (fun area (id, name) => ((Area.load id name).outcome area).2) area

theorem Grown.loadAll (grown : base.Grown area) (requests : List (LoaderId × ClassName)) :
    base.Grown (area.loadAll requests) := by
  induction requests generalizing area with
  | nil => exact grown
  | cons request rest inductiveStep => exact inductiveStep (grown.load request.1 request.2)

end Area
end ClassRuntime

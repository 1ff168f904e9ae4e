import ClassRuntime.Proofs.Loader.Safety

namespace ClassRuntime

/-!
# Reachable areas

An area starts with the bootstrap loader.  From then on loaders are added below
loaders that are already there, definitions are given to loaders or replaced,
and classes are loaded, in any order and with any result.  The rest of the
runtime only notes on a class how far its initialization has come and which
objects stand for it.  Every area that comes about in this way is well formed.
-/

namespace Area

variable {ι : Type} {area : Area ι}

/-- The areas of a runtime at any time. -/
inductive Reachable : Area ι → Prop
  | initial (definitions : List (ClassDefinition ι)) : Reachable (.initial definitions)
  | addLoader {area : Area ι} (name : String) (source : Source) (parent : Option LoaderId)
      (issued : ∀ known ∈ parent, (area.loader? known).isSome) :
      Reachable area → Reachable ((addLoader name source parent).outcome area).2
  | addDefinition {area : Area ι} (id : LoaderId) (definition : ClassDefinition ι) :
      Reachable area → Reachable ((addDefinition id definition).outcome area).2
  | load {area : Area ι} (id : LoaderId) (name : ClassName) :
      Reachable area → Reachable ((load id name).outcome area).2
  | note {area : Area ι} (id : ClassId) (progress : Progress) (mirror pool : Option Object) :
      Reachable area →
        Reachable (area.updateClass id fun loaded => { loaded with progress, mirror, pool })
  | hand {area : Area ι} (id : LoaderId) (handle : Option Object) :
      Reachable area → Reachable (area.updateLoader id fun loader => { loader with handle })

/-! ## The area at the start -/

private theorem mem_of_find?_ofList {κ α : Type} [DecidableEq κ] {entries : List (κ × α)}
    {key : κ} {value : α} (found : (Table.ofList entries).find? key = some value) :
    (key, value) ∈ entries := by
  have general (step : Table κ α → κ × α → Table κ α)
      (inserts : ∀ table entry, step table entry = table.insert entry.1 entry.2)
      (entries : List (κ × α)) (table : Table κ α)
      (found : (entries.foldl step table).find? key = some value) :
      (key, value) ∈ entries ∨ table.find? key = some value := by
    induction entries generalizing table with
    | nil => exact Or.inr found
    | cons entry rest inductiveStep =>
      rcases inductiveStep _ found with later | earlier
      · exact Or.inl (List.mem_cons_of_mem _ later)
      · rw [inserts, Table.find?_insert] at earlier
        split at earlier
        next same =>
          cases earlier
          exact Or.inl (same ▸ List.mem_cons_self)
        next => exact Or.inr earlier
  rcases general _ (fun _ _ => rfl) entries .empty found with member | impossible
  · exact member
  · cases impossible

/-- What a definition leaves alone, a list of definitions leaves alone. -/
theorem kept_bootstrap {α : Type} (part : Loader ι → α)
    (kept : ∀ loader definition, part (Loader.addDefinition loader definition) = part loader)
    (definitions : List (ClassDefinition ι)) (loader : Loader ι) :
    part (definitions.foldl Loader.addDefinition loader) = part loader := by
  induction definitions generalizing loader with
  | nil => rfl
  | cons first rest inductiveStep =>
    exact (inductiveStep (loader.addDefinition first)).trans (kept loader first)

private theorem keyed_bootstrap (definitions : List (ClassDefinition ι)) {name : ClassName}
    {definition : ClassDefinition ι}
    (found : (Loader.bootstrap definitions).definitions.find? name = some definition) :
    definition.name = name := by
  have general (definitions : List (ClassDefinition ι)) (loader : Loader ι)
      (keyed : ∀ {name definition}, loader.definitions.find? name = some definition →
        definition.name = name)
      (found : (definitions.foldl Loader.addDefinition loader).definitions.find? name =
        some definition) : definition.name = name := by
    induction definitions generalizing loader with
    | nil => exact keyed found
    | cons first rest inductiveStep =>
      refine inductiveStep (loader.addDefinition first) (fun {name definition} here => ?_) found
      rw [Loader.addDefinition, Table.find?_insert] at here
      split at here
      next same =>
        cases here
        exact same
      next => exact keyed here
  exact general definitions _ (fun impossible => by cases impossible) found

theorem loader?_initial (definitions : List (ClassDefinition ι)) (id : LoaderId) :
    (initial definitions).loader? id =
      if id = .bootstrap then some (.bootstrap definitions) else none := by
  by_cases here : id = .bootstrap
  · rw [if_pos here, here]
    rfl
  · have beyond : id.index ≠ 0 := fun zero => here (congrArg LoaderId.mk zero)
    rw [if_neg here]
    simp only [loader?, initial, List.getElem?_toArray, List.getElem?_singleton, if_neg beyond]

/-- The classes of the primitive types are in their places, and there are no
others. -/
theorem type?_initial (definitions : List (ClassDefinition ι)) (id : ClassId) :
    (initial definitions).type? id =
      if id.loader = .bootstrap then Primitive.all[id.index]?.map Loader.primitiveType
      else none := by
  rw [type?, class?, loader?_initial]
  split
  · simp only [Loader.bootstrap, Option.bind_some, List.getElem?_toArray, List.getElem?_map,
      Option.map_map]
    rfl
  · rfl

/-- All classes at the start are those of primitive types. -/
theorem class?_initial {definitions : List (ClassDefinition ι)} {id : ClassId}
    {loaded : LoadedClass ι} (found : (initial definitions).class? id = some loaded) :
    ∃ primitive, loaded = .fresh (Loader.primitiveType primitive) none := by
  rcases Option.bind_eq_some_iff.1 found with ⟨loader, known, place⟩
  rw [loader?_initial] at known
  split at known
  · cases known
    rcases List.mem_map.1 (List.mem_toArray.1 (Array.mem_of_getElem? place)) with
      ⟨primitive, _, rfl⟩
    exact ⟨primitive, rfl⟩
  · cases known

theorem parent?_initial (definitions : List (ClassDefinition ι)) (id : LoaderId) :
    (initial definitions).parent? id = none := by
  rw [parent?, loader?_initial]
  split
  · exact kept_bootstrap Loader.parent (fun _ _ => rfl) definitions _
  · rfl

theorem lookup?_initial {definitions : List (ClassDefinition ι)} {id : LoaderId}
    {name : ClassName} {found : ClassId}
    (answered : (initial definitions).lookup? id name = some found) :
    id = .bootstrap ∧ ∃ index primitive, Primitive.all[index]? = some primitive ∧
      name = primitive.keyword ∧ found = ⟨.bootstrap, index⟩ := by
  rw [lookup?, loader?_initial] at answered
  split at answered
  next here =>
    refine ⟨here, ?_⟩
    have member := mem_of_find?_ofList answered
    rcases List.mem_map.1 member with ⟨⟨primitive, index⟩, listed, same⟩
    cases same
    exact ⟨index, primitive, (List.mem_zipIdx_iff_getElem?.1 listed), rfl, rfl⟩
  next => cases answered

/-- Each primitive type is found under its keyword. -/
theorem lookup?_primitive (definitions : List (ClassDefinition ι)) {index : Nat}
    {primitive : Primitive} (listed : Primitive.all[index]? = some primitive) :
    (initial definitions).lookup? .bootstrap primitive.keyword = some ⟨.bootstrap, index⟩ := by
  have complete : ∀ entry ∈ Loader.primitiveNames,
      (Table.ofList Loader.primitiveNames).find? entry.1 = some entry.2 := by decide
  rw [lookup?, loader?_initial, if_pos rfl, Option.bind_some]
  exact complete (primitive.keyword, ⟨.bootstrap, index⟩)
    (List.mem_map.2 ⟨(primitive, index), List.mem_zipIdx_iff_getElem?.2 listed, rfl⟩)

theorem linking_initial (definitions : List (ClassDefinition ι)) (id : LoaderId) :
    (initial definitions).linking id = [] := by
  rw [linking, loader?_initial]
  split
  · exact kept_bootstrap Loader.linking (fun _ _ => rfl) definitions _
  · rfl

theorem wellFormed_initial (definitions : List (ClassDefinition ι)) :
    (initial definitions).WellFormed := by
  constructor
  · rw [loader?_initial, if_pos rfl]
    rfl
  · intro id parent asked
    rw [parent?_initial] at asked
    cases asked
  · intro id name definition found
    rw [definition?, loader?_initial] at found
    split at found
    · exact keyed_bootstrap definitions found
    · cases found
  · intro id name found answered
    rcases lookup?_initial answered with ⟨here, index, primitive, listed, named, rfl⟩
    refine ⟨here ▸ Relation.ReflTransGen.refl, Loader.primitiveType primitive, ?_, named.symm⟩
    rw [type?_initial, if_pos rfl, listed, Option.map_some]
  · intro id type typed
    rw [type?_initial] at typed
    split at typed
    next here =>
      rcases Option.map_eq_some_iff.1 typed with ⟨primitive, _, rfl⟩
      exact Linked.primitive primitive here
    next => cases typed
  · intro id type typed
    rw [type?_initial] at typed
    split at typed
    next here =>
      rcases Option.map_eq_some_iff.1 typed with ⟨primitive, listed, rfl⟩
      rcases id with ⟨home, index⟩
      cases here
      exact lookup?_primitive definitions listed
    next => cases typed
  · intro id name member
    rw [linking_initial] at member
    cases member

/-! ## Steps -/

theorem loader?_addLoader (area : Area ι) (name : String) (source : Source)
    (parent : Option LoaderId) (id : LoaderId) :
    ((addLoader name source parent).outcome area).2.loader? id =
      if id.index = area.loaders.size
      then some (.create name source (some (parent.getD .bootstrap)))
      else area.loader? id := by
  rw [addLoader, Action.outcome_modifyGet]
  simp only [loader?, Array.getElem?_push]

/-- A new loader takes nothing away. -/
theorem loader?_addLoader_of_known (name : String) (source : Source) (parent : Option LoaderId)
    {id : LoaderId} {loader : Loader ι} (known : area.loader? id = some loader) :
    ((addLoader name source parent).outcome area).2.loader? id = some loader := by
  have bounded := loader?_isSome_iff.1 (Option.isSome_iff_exists.2 ⟨loader, known⟩)
  rw [loader?_addLoader, if_neg (Nat.ne_of_lt bounded)]
  exact known

theorem parent?_addLoader_of_some (name : String) (source : Source) (parent : Option LoaderId)
    {id above : LoaderId} (asked : area.parent? id = some above) :
    ((addLoader name source parent).outcome area).2.parent? id = some above := by
  rcases Option.bind_eq_some_iff.1 asked with ⟨loader, known, _⟩
  rw [parent?_eq (loader?_addLoader_of_known name source parent known), ← parent?_eq known]
  exact asked

theorem type?_addLoader_of_some (name : String) (source : Source) (parent : Option LoaderId)
    {id : ClassId} {type : TypeDescriptor} (typed : area.type? id = some type) :
    ((addLoader name source parent).outcome area).2.type? id = some type := by
  rcases WellFormed.class_known typed with ⟨loader, loaded, known, _, _⟩
  rw [type?, class?_eq (loader?_addLoader_of_known name source parent known), ← class?_eq known]
  exact typed

theorem wellFormed_addLoader (fine : area.WellFormed) (name : String) (source : Source)
    {parent : Option LoaderId} (issued : ∀ known ∈ parent, (area.loader? known).isSome) :
    ((addLoader name source parent).outcome area).2.WellFormed := by
  have added := loader?_addLoader area name source parent
  have parents {id above : LoaderId} (asked : area.parent? id = some above) :
      ((addLoader name source parent).outcome area).2.parent? id = some above :=
    parent?_addLoader_of_some name source parent asked
  have types {id : ClassId} {type : TypeDescriptor} (typed : area.type? id = some type) :
      ((addLoader name source parent).outcome area).2.type? id = some type :=
    type?_addLoader_of_some name source parent typed
  constructor
  · rcases Option.isSome_iff_exists.1 fine.rooted with ⟨loader, known⟩
    rw [loader?_addLoader_of_known name source parent known]
    rfl
  · intro id above asked
    rw [parent?, added] at asked
    split at asked
    next last =>
      rw [last]
      cases asked
      cases parent with
      | none => exact loader?_isSome_iff.1 fine.rooted
      | some known => exact loader?_isSome_iff.1 (issued known rfl)
    next => exact fine.descending asked
  · intro id sought definition found
    rw [definition?, added] at found
    split at found
    · cases found
    · exact fine.keyed found
  · intro id sought found answered
    rw [lookup?, added] at answered
    split at answered
    · cases answered
    · exact (fine.answered answered).mono parents types
  · intro id type typed
    rw [type?, class?, added] at typed
    split at typed
    · cases typed
    · exact (fine.linked typed).grow types
  · intro id type typed
    rw [type?, class?, added] at typed
    split at typed
    · cases typed
    next different =>
      rw [lookup?, added, if_neg different]
      exact fine.recorded typed
  · intro id sought member
    rw [linking, added] at member
    split at member
    · cases member
    next different =>
      rw [lookup?, added, if_neg different]
      exact fine.marked member

theorem outcome_addDefinition (id : LoaderId) (definition : ClassDefinition ι) (area : Area ι) :
    ((addDefinition id definition).outcome area).2 =
      area.updateLoader id fun loader => loader.addDefinition definition := by
  cases known : area.loader? id with
  | some loader =>
    simp only [addDefinition, Action.outcome_bind, outcome_getLoader, loader_eq_ok known,
      Action.outcome_modify]
  | none =>
    simp only [addDefinition, Action.outcome_bind, outcome_getLoader, loader_eq_error known]
    rw [updateLoader_of_unknown known]

/-- A loader has what it has been given under the name of the definition, and otherwise
what it had. -/
theorem definition?_addDefinition {id home : LoaderId} {name : ClassName}
    {definition other : ClassDefinition ι}
    (found : (area.updateLoader id fun loader => loader.addDefinition definition).definition? home
      name = some other) : other.name = name ∨ area.definition? home name = some other := by
  rw [definition?, loader?_updateLoader] at found
  split at found
  · rcases Option.bind_eq_some_iff.1 found with ⟨changed, known, here⟩
    rcases Option.map_eq_some_iff.1 known with ⟨loader, old, rfl⟩
    rw [Loader.addDefinition, Table.find?_insert] at here
    split at here
    next same =>
      cases here
      exact Or.inl same
    next =>
      rw [← definition?_eq old] at here
      exact Or.inr here
  · exact Or.inr found

theorem resembles_addDefinition (area : Area ι) (id : LoaderId)
    (definition : ClassDefinition ι) :
    area.Resembles (area.updateLoader id fun loader => loader.addDefinition definition) where
  known := isSome_updateLoader (fun loader => loader.addDefinition definition) area
  parent := bind_updateLoader (fun loader => loader.addDefinition definition) (fun _ => rfl) area
  keyed home keyed name other found := by
    rcases definition?_addDefinition found with named | earlier
    · exact named
    · exact keyed name other earlier
  answer := lookup?_updateLoader (fun loader => loader.addDefinition definition) (fun _ => rfl) area
  type := type?_updateLoader (fun loader => loader.addDefinition definition) (fun _ => rfl) area

/-- A change that no lookup shows and that does not concern what is being linked. -/
private theorem wellFormed_change (fine : area.WellFormed) {id : LoaderId}
    (change : Loader ι → Loader ι) (same : area.Resembles (area.updateLoader id change))
    (marks : ∀ loader, (change loader).linking = loader.linking) :
    (area.updateLoader id change).WellFormed := by
  refine fine.of_resembles same fun {home name} member => ?_
  rw [linking_updateLoader_of_kept change marks] at member
  exact fine.marked member

theorem wellFormed_addDefinition (fine : area.WellFormed) (id : LoaderId)
    (definition : ClassDefinition ι) :
    ((addDefinition id definition).outcome area).2.WellFormed := by
  rw [outcome_addDefinition]
  exact wellFormed_change fine _ (resembles_addDefinition area id definition) fun _ => rfl

/-- A load through a loader that does not exist changes nothing. -/
theorem outcome_load_unknown {id : LoaderId} (unknown : area.loader? id = none)
    (name : ClassName) :
    (load id name).outcome area = (.error (.danglingLoader id), area) := by
  rw [load, Action.outcome_bind, Action.outcome_get]
  change (loadWith (loadNested area.definitionCount) id name).outcome area = _
  by_cases named : name.isArray
  · rw [loadWith, if_pos named, Action.outcome_bind, outcome_getLoader, loader_eq_error unknown]
  · rw [outcome_loadWith_ordinary named, loadOrdinary, Action.outcome_bind, Action.outcome_get]
    simp only [delegate, Action.outcome_bind, outcome_getLoader, loader_eq_error unknown]

theorem wellFormed_load (fine : area.WellFormed) (id : LoaderId) (name : ClassName) :
    ((load id name).outcome area).2.WellFormed := by
  cases known : area.loader? id with
  | none =>
    rw [outcome_load_unknown known]
    exact fine
  | some loader =>
    exact (safe_load name fine (Option.isSome_iff_exists.2 ⟨loader, known⟩)).wellFormed

theorem wellFormed_updateClass (fine : area.WellFormed) (id : ClassId)
    {change : LoadedClass ι → LoadedClass ι}
    (kept : ∀ loaded, (change loaded).toTypeDescriptor = loaded.toTypeDescriptor) :
    (area.updateClass id change).WellFormed :=
  wellFormed_change fine _ (resembles_updateClass area id kept) fun _ => rfl

theorem wellFormed_hand (fine : area.WellFormed) (id : LoaderId) (handle : Option Object) :
    (area.updateLoader id fun loader => { loader with handle }).WellFormed :=
  wellFormed_change fine _ (resembles_hand area id handle) fun _ => rfl

theorem Reachable.wellFormed (reachable : area.Reachable) : area.WellFormed := by
  induction reachable with
  | initial definitions => exact wellFormed_initial definitions
  | addLoader name source parent issued _ fine => exact wellFormed_addLoader fine name source issued
  | addDefinition id definition _ fine => exact wellFormed_addDefinition fine id definition
  | load id name _ fine => exact wellFormed_load fine id name
  | note id progress mirror pool _ fine => exact wellFormed_updateClass fine id fun _ => rfl
  | hand id handle _ fine => exact wellFormed_hand fine id handle

end Area
end ClassRuntime

import ClassRuntime.Proofs.Loader.ArrayTypes
import ClassRuntime.Proofs.Loader.Lineage
import ClassRuntime.Proofs.Machine.Reachability

namespace ClassRuntime

/-!
# Invariants of reachable machines

What happens to the area of a machine is either a small change in the course of a load,
or it concerns neither answers nor marks nor what is fixed about classes.  So what holds
of an area at the start holds of the areas of all reachable machines as soon as it
outlasts the changes of both kinds.  That an area is grounded and that its bootstrap
loader is in order may be used for this.
-/

namespace Area

variable {ι : Type} {area before after : Area ι}

/-! ## What happens apart from loads -/

theorem sameViews_updateLoader (area : Area ι) {id : LoaderId} (change : Loader ι → Loader ι)
    (classes : ∀ loader, (change loader).classes = loader.classes)
    (answers : ∀ loader, (change loader).byName = loader.byName)
    (marks : ∀ loader, (change loader).linking = loader.linking) :
    area.SameRecords (area.updateLoader id change) where
  answers := lookup?_updateLoader change answers area
  marks := linking_updateLoader_of_kept change marks area
  blueprints := blueprint?_updateLoader change classes area

theorem sameViews_updateClass (area : Area ι) (id : ClassId)
    {change : LoadedClass ι → LoadedClass ι}
    (types : ∀ loaded, (change loaded).toTypeDescriptor = loaded.toTypeDescriptor)
    (initializers : ∀ loaded, (change loaded).initializer = loaded.initializer) :
    area.SameRecords (area.updateClass id change) where
  answers := lookup?_updateLoader
    (fun loader => { loader with classes := loader.classes.modify id.index change })
    (fun _ => rfl) area
  marks := linking_updateLoader_of_kept
    (fun loader => { loader with classes := loader.classes.modify id.index change })
    (fun _ => rfl) area
  blueprints other := by
    rw [blueprint?, class?_updateClass, blueprint?]
    split
    · rw [Option.map_map]
      congr 1
      exact funext fun loaded => Prod.ext (types loaded) (initializers loaded)
    · rfl

theorem sameViews_addLoader (area : Area ι) (name : String) (source : Source)
    (parent : Option LoaderId) :
    area.SameRecords ((addLoader name source parent).outcome area).2 := by
  have added := loader?_addLoader area name source parent
  have unknown {id : LoaderId} (last : id.index = area.loaders.size) : area.loader? id = none :=
    Array.getElem?_eq_none (Nat.le_of_eq last.symm)
  constructor
  · intro id sought
    rw [lookup?, added]
    split
    next last =>
      rw [lookup?, unknown last]
      rfl
    next => rfl
  · intro id
    rw [linking, added]
    split
    next last =>
      rw [linking, unknown last]
      rfl
    next => rfl
  · intro id
    rw [blueprint?, class?, added]
    split
    next last =>
      rw [blueprint?, class?, unknown last]
      rfl
    next => rfl

/-- The property holds of a grounded area whose bootstrap loader is in order. -/
structure Upholds (property : Area ι → Prop) (area : Area ι) : Prop where
  grounded : area.Grounded
  booted : area.Booted
  holds : property area

/-- A property that is not lost. -/
def Keeps (property : Area ι → Prop) (before after : Area ι) : Prop :=
  before.Upholds property → after.Upholds property

end Area

namespace Machine

variable {ι : Type} {property : Area ι → Prop} {machine : Machine ι}

section Keeps

variable
  (views : ∀ {before after : Area ι}, before.SameRecords after → property before → property after)
  (change : ∀ {before after : Area ι}, before.Grounded → before.Booted → before.Change after →
    property before → property after)

include views change

theorem spans_keeps : Spans (Area.Keeps property : Area ι → Area ι → Prop) where
  refl _ upholds := upholds
  trans _ _ _ first second upholds := second (first upholds)
  addLoader name source parent area upholds :=
    ⟨Area.grounded_addLoader name source parent area upholds.grounded,
      Area.staysBooted_addLoader name source parent area upholds.booted,
      views (area.sameViews_addLoader name source parent) upholds.holds⟩
  addDefinition id definition area upholds := by
    refine ⟨Area.grounded_addDefinition id definition area upholds.grounded,
      Area.staysBooted_addDefinition id definition area upholds.booted, views ?_ upholds.holds⟩
    rw [Area.outcome_addDefinition]
    exact area.sameViews_updateLoader (fun loader => loader.addDefinition definition)
      (fun _ => rfl) (fun _ => rfl) fun _ => rfl
  load id name area upholds :=
    (Area.builds_load id name area).assembles.keeps
      (fun {before after} step (upholds : before.Upholds property) =>
        ⟨upholds.grounded.change step, upholds.booted.change step,
          change upholds.grounded upholds.booted step upholds.holds⟩) upholds
  progress area id progress upholds :=
    ⟨spans_staysGrounded.progress area id progress upholds.grounded,
      spans_staysBooted.progress area id progress upholds.booted,
      views (area.sameViews_updateClass id (fun _ => rfl) fun _ => rfl) upholds.holds⟩
  mirror area id mirror mirrors upholds :=
    ⟨spans_staysGrounded.mirror area id mirror mirrors upholds.grounded,
      spans_staysBooted.mirror area id mirror mirrors upholds.booted,
      views (area.sameViews_updateClass id (fun _ => rfl) fun _ => rfl) upholds.holds⟩
  pool area id pool upholds :=
    ⟨spans_staysGrounded.pool area id pool upholds.grounded,
      spans_staysBooted.pool area id pool upholds.booted,
      views (area.sameViews_updateClass id (fun _ => rfl) fun _ => rfl) upholds.holds⟩
  handle area id handle upholds :=
    ⟨spans_staysGrounded.handle area id handle upholds.grounded,
      spans_staysBooted.handle area id handle upholds.booted,
      views (area.sameViews_updateLoader (fun loader => { loader with handle := some handle })
        (fun _ => rfl) (fun _ => rfl) fun _ => rfl) upholds.holds⟩

/-- What holds at the start and is kept holds of the area of every reachable machine. -/
theorem Reachable.holds (initial : ∀ definitions, property (Area.initial definitions))
    (reachable : machine.Reachable) : property machine.area := by
  rcases reachable with ⟨number, definitions, becomes⟩
  have fine := Area.wellFormed_initial definitions
  exact (becomes.area (spans_keeps views change)
    ⟨fine.grounded, fine.booted, initial definitions⟩).holds

end Keeps

theorem Reachable.traced (reachable : machine.Reachable) : machine.area.Traced :=
  reachable.holds (fun same traced => traced.of_records same)
    (fun _ booted change traced => traced.change booted change) Area.Traced.initial

theorem Reachable.lineal (reachable : machine.Reachable) : machine.area.Lineal :=
  reachable.holds (fun same lineal => lineal.of_records same)
    (fun grounded _ change lineal => lineal.change grounded change) Area.Lineal.initial

end Machine
end ClassRuntime

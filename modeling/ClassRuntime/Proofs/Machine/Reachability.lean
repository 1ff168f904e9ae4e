import ClassRuntime.Proofs.Loader.Bootstrap
import ClassRuntime.Proofs.Machine.History

namespace ClassRuntime

/-!
# Reachable machines

A machine is reachable if it comes about from a machine that has done nothing, by
steps of any kind and in any order.  The area of a reachable machine is grounded.
If in addition every loader was added after its parent, the area is well formed.

Loaders are numbered in the order in which they are added and keep their parents.
So it can be seen of an area whether parents were there when they were named, and
to require it in the end is to require it all along.
-/

namespace Area

variable {ι : Type} {area before after : Area ι}

/-- Every loader was added after its parent. -/
def ParentsFirst (area : Area ι) : Prop :=
  ∀ id parent, area.parent? id = some parent → parent.index < id.index

theorem parentsFirst_iff : area.ParentsFirst ↔ ∀ index < area.loaders.size,
    ∀ parent ∈ area.parent? ⟨index⟩, parent.index < index := by
  constructor
  · intro issued index _ parent asked
    exact issued ⟨index⟩ parent asked
  · intro listed id parent asked
    rcases loader?_of_parent? asked with ⟨loader, known⟩
    have bounded := loader?_isSome_iff.1 (Option.isSome_iff_exists.2 ⟨loader, known⟩)
    exact listed id.index bounded parent asked

instance (area : Area ι) : Decidable area.ParentsFirst :=
  decidable_of_iff _ parentsFirst_iff.symm

/-- Loaders keep their parents. -/
def KeepsParents (before after : Area ι) : Prop :=
  ∀ id parent, before.parent? id = some parent → after.parent? id = some parent

instance : IsPreorder (Area ι) KeepsParents where
  refl _ _ _ asked := asked
  trans _ _ _ first second id parent asked := second id parent (first id parent asked)

/-! ## Grounded areas -/

theorem WellFormed.grounded (fine : area.WellFormed) : area.Grounded where
  answered answered := by
    rcases (fine.answered answered).2 with ⟨type, typed, _⟩
    exact isSome_class?_iff.2 ⟨type, typed⟩
  closed typed other member := ((fine.linked typed).references_earlier other member).2
  component {_ type component} typed has := by
    refine ((fine.linked typed).references_earlier component ?_).1
    rw [TypeDescriptor.references, has]
    exact List.mem_append_right _ List.mem_cons_self

theorem grounded_addLoader (name : String) (source : Source) (parent : Option LoaderId) :
    (addLoader name source parent : Action (Area ι) LoaderId).Within StaysGrounded := by
  intro area grounded
  have added := loader?_addLoader area name source parent
  have retained := retains_addLoader name source parent area
  constructor
  · intro id sought found answered
    rw [lookup?, added] at answered
    split at answered
    · cases answered
    · exact retained.isSome (grounded.answered answered)
  · intro id type typed other member
    rw [type?, class?, added] at typed
    split at typed
    · cases typed
    · exact retained.isSome (grounded.closed typed other member)
  · intro id type component typed has
    rw [type?, class?, added] at typed
    split at typed
    · cases typed
    · exact grounded.component typed has

theorem grounded_addDefinition (id : LoaderId) (definition : ClassDefinition ι) :
    (addDefinition id definition).Within StaysGrounded := by
  intro area grounded
  rw [outcome_addDefinition]
  exact grounded.of_resembles (resembles_addDefinition area id definition)

/-! ## Parents -/

theorem keepsParents_updateLoader (area : Area ι) {id : LoaderId} (change : Loader ι → Loader ι)
    (kept : ∀ loader, (change loader).parent = loader.parent) :
    area.KeepsParents (area.updateLoader id change) :=
  fun other _ asked => (bind_updateLoader change kept area other).trans asked

theorem loading_keepsParents :
    Loading fun α (action : Action (Area ι) α) => action.Within KeepsParents :=
  .within
    (fun {area _ _} _ type initializer => keepsParents_updateLoader area
      (fun loader => loader.push (.fresh type initializer)) fun _ => rfl)
    (fun area _ name found =>
      keepsParents_updateLoader area (fun loader => loader.answer name found) fun _ => rfl)
    (fun area _ name =>
      keepsParents_updateLoader area (fun loader => loader.mark name) fun _ => rfl)
    fun area _ name =>
      keepsParents_updateLoader area (fun loader => loader.unmark name) fun _ => rfl

/-- Loaders keep their parents, and an area stays well formed if the parents of all
loaders turn out to have been there. -/
structure StaysWellFormed (before after : Area ι) : Prop where
  parents : before.KeepsParents after
  fine : after.ParentsFirst → before.WellFormed → after.WellFormed

instance : IsPreorder (Area ι) StaysWellFormed where
  refl area := ⟨refl_of KeepsParents area, fun _ fine => fine⟩
  trans _ _ _ first second := by
    refine ⟨trans_of KeepsParents first.parents second.parents, fun issued fine => ?_⟩
    exact second.fine issued
      (first.fine (fun id parent asked => issued id parent (second.parents id parent asked)) fine)

theorem staysWellFormed_addLoader (name : String) (source : Source) (parent : Option LoaderId) :
    (addLoader name source parent : Action (Area ι) LoaderId).Within StaysWellFormed := by
  refine fun area => ⟨fun id above => parent?_addLoader_of_some name source parent, ?_⟩
  intro issued fine
  refine wellFormed_addLoader fine name source fun named same => ?_
  rcases Option.mem_def.1 same with rfl
  rw [loader?_isSome_iff]
  refine issued ⟨area.loaders.size⟩ named ?_
  rw [parent?, loader?_addLoader, if_pos rfl]
  rfl

theorem staysWellFormed_updateClass (area : Area ι) (id : ClassId)
    {change : LoadedClass ι → LoadedClass ι}
    (kept : ∀ loaded, (change loaded).toTypeDescriptor = loaded.toTypeDescriptor) :
    area.StaysWellFormed (area.updateClass id change) where
  parents := keepsParents_updateLoader area _ fun _ => rfl
  fine _ fine := wellFormed_updateClass fine id kept

end Area

namespace Machine

variable {ι : Type} {before after machine : Machine ι}

theorem spans_staysGrounded : Spans (Area.StaysGrounded : Area ι → Area ι → Prop) where
  addLoader := Area.grounded_addLoader
  addDefinition := Area.grounded_addDefinition
  load := Area.staysGrounded_load
  progress area id _ grounded :=
    grounded.of_resembles (Area.resembles_updateClass area id fun _ => rfl)
  mirror area id _ _ grounded :=
    grounded.of_resembles (Area.resembles_updateClass area id fun _ => rfl)
  pool area id _ grounded :=
    grounded.of_resembles (Area.resembles_updateClass area id fun _ => rfl)
  handle area id handle grounded :=
    grounded.of_resembles (Area.resembles_hand area id (some handle))

theorem spans_staysWellFormed : Spans (Area.StaysWellFormed : Area ι → Area ι → Prop) where
  addLoader := Area.staysWellFormed_addLoader
  addDefinition id definition area := by
    refine ⟨?_, fun _ fine => Area.wellFormed_addDefinition fine id definition⟩
    rw [Area.outcome_addDefinition]
    exact Area.keepsParents_updateLoader area (fun loader => loader.addDefinition definition)
      fun _ => rfl
  load id name area :=
    ⟨Area.loading_keepsParents.load id name area, fun _ fine => Area.wellFormed_load fine id name⟩
  progress area id _ := Area.staysWellFormed_updateClass area id fun _ => rfl
  mirror area id _ _ := Area.staysWellFormed_updateClass area id fun _ => rfl
  pool area id _ := Area.staysWellFormed_updateClass area id fun _ => rfl
  handle area id handle :=
    ⟨Area.keepsParents_updateLoader area (fun loader => { loader with handle := some handle })
      fun _ => rfl, fun _ fine => Area.wellFormed_hand fine id (some handle)⟩

theorem spans_staysBooted : Spans (Area.StaysBooted : Area ι → Area ι → Prop) where
  addLoader := Area.staysBooted_addLoader
  addDefinition := Area.staysBooted_addDefinition
  load := Area.staysBooted_load
  progress area id _ booted := booted.of_resembles (Area.resembles_updateClass area id fun _ => rfl)
  mirror area id _ _ booted := booted.of_resembles (Area.resembles_updateClass area id fun _ => rfl)
  pool area id _ booted := booted.of_resembles (Area.resembles_updateClass area id fun _ => rfl)
  handle area id handle booted := booted.of_resembles (Area.resembles_hand area id (some handle))

/-- The machine comes about from one that has done nothing. -/
def Reachable (machine : Machine ι) : Prop :=
  ∃ number definitions, (initial number definitions).Becomes machine

theorem Reachable.later (reachable : before.Reachable) (becomes : before.Becomes after) :
    after.Reachable := by
  rcases reachable with ⟨number, definitions, came⟩
  exact ⟨number, definitions, trans_of Becomes came becomes⟩

theorem reachable_initial (number : Nat) (definitions : List (ClassDefinition ι)) :
    (initial number definitions).Reachable :=
  ⟨number, definitions, refl_of Becomes _⟩

theorem Reachable.perform {α : Type} (reachable : machine.Reachable) (request : Request ι α) :
    (request.perform.outcome machine).2.Reachable :=
  reachable.later (becomes_perform request machine)

theorem Reachable.grounded (reachable : machine.Reachable) : machine.area.Grounded := by
  rcases reachable with ⟨number, definitions, becomes⟩
  exact becomes.area spans_staysGrounded (Area.wellFormed_initial definitions).grounded

theorem Reachable.booted (reachable : machine.Reachable) : machine.area.Booted := by
  rcases reachable with ⟨number, definitions, becomes⟩
  exact becomes.area spans_staysBooted (Area.wellFormed_initial definitions).booted

theorem Reachable.wellFormed (reachable : machine.Reachable)
    (issued : machine.area.ParentsFirst) : machine.area.WellFormed := by
  rcases reachable with ⟨number, definitions, becomes⟩
  exact (becomes.area spans_staysWellFormed).fine issued (Area.wellFormed_initial definitions)

end Machine
end ClassRuntime

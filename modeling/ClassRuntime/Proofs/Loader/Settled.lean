import ClassRuntime.Proofs.Loader.Identity
import ClassRuntime.Proofs.Loader.Unused

namespace ClassRuntime

/-!
# Settled definitions

The definitions of an area are settled if all of them were given before anything
was loaded.  Anything else may happen afterwards: classes are loaded, loaders are
added, objects are handed out for classes and loaders.

A settled area is a base for its own memory.  So what it remembers is what would
be found if nothing had been loaded yet, and two areas of which one comes about
from the other resolve requests alike.
-/

namespace Area

variable {ι : Type} {base other area before after : Area ι}

/-- A step that leaves every definition as it is. -/
def Proceeds (before after : Area ι) : Prop :=
  before.Step after ∧ ∀ id name, after.definition? id name = before.definition? id name

/-- The second area comes about from the first without a change of definitions. -/
def Continues : Area ι → Area ι → Prop :=
  Relation.ReflTransGen Proceeds

/-- All definitions were given before anything was loaded. -/
def Settled (area : Area ι) : Prop :=
  ∃ start, Unused start ∧ start.Continues area

theorem Unused.settled (unused : area.Unused) : area.Settled :=
  ⟨area, unused, .refl⟩

theorem Settled.later (settled : before.Settled) (onward : before.Continues after) :
    after.Settled := by
  rcases settled with ⟨start, unused, came⟩
  exact ⟨start, unused, came.trans onward⟩

theorem Continues.becomesLater (onward : before.Continues after) : before.BecomesLater after :=
  Relation.ReflTransGen.mono (fun _ _ proceeds => proceeds.1) _ _ onward

theorem Continues.retains (onward : before.Continues after) : before.Retains after :=
  onward.becomesLater.retains

/-! ## Steps other than loads -/

/-- A change that makes no difference to loads: what is remembered is the same, and
loaders that are there keep their parents. -/
structure Idle (before after : Area ι) : Prop where
  known : ∀ {id}, (before.loader? id).isSome → (after.loader? id).isSome
  parent : ∀ {id}, (before.loader? id).isSome → after.parent? id = before.parent? id
  source : ∀ {id}, (before.loader? id).isSome → after.source? id = before.source? id
  type : ∀ id, after.type? id = before.type? id
  answer : ∀ id name, after.lookup? id name = before.lookup? id name
  linking : ∀ id, after.linking id = before.linking id
  /-- A loader that is new has a parent. -/
  below : ∀ {id}, (after.loader? id).isSome →
    (before.loader? id).isSome ∨ ∃ parent, after.parent? id = some parent

private theorem idle_updateLoader (area : Area ι) (id : LoaderId) (change : Loader ι → Loader ι)
    (parents : ∀ loader, (change loader).parent = loader.parent)
    (sources : ∀ loader, (change loader).source = loader.source)
    (answers : ∀ loader, (change loader).byName = loader.byName)
    (marks : ∀ loader, (change loader).linking = loader.linking)
    (types : ∀ other, (area.updateLoader id change).type? other = area.type? other) :
    area.Idle (area.updateLoader id change) where
  known {other} there := (isSome_updateLoader change area other).symm ▸ there
  parent _ := bind_updateLoader change parents area _
  source _ := bind_updateLoader change (fun loader => by rw [sources]) area _
  type := types
  answer := lookup?_updateLoader change answers area
  linking := linking_updateLoader_of_kept change marks area
  below {other} there := Or.inl ((isSome_updateLoader change area other) ▸ there)

private theorem idle_updateClass (area : Area ι) (id : ClassId)
    {change : LoadedClass ι → LoadedClass ι}
    (kept : ∀ loaded, (change loaded).toTypeDescriptor = loaded.toTypeDescriptor) :
    area.Idle (area.updateClass id change) :=
  idle_updateLoader area id.loader
    (fun loader => { loader with classes := loader.classes.modify id.index change })
    (fun _ => rfl) (fun _ => rfl) (fun _ => rfl) (fun _ => rfl) (type?_updateClass kept area)

private theorem idle_addLoader (name : String) (source : Source) (parent : Option LoaderId)
    (area : Area ι) : area.Idle ((addLoader name source parent).outcome area).2 := by
  have added := loader?_addLoader area name source parent
  have same {id : LoaderId} (known : (area.loader? id).isSome) :
      ((addLoader name source parent).outcome area).2.loader? id = area.loader? id := by
    rcases Option.isSome_iff_exists.1 known with ⟨loader, present⟩
    rw [loader?_addLoader_of_known name source parent present, present]
  -- The new loader has no classes and no answers, and neither has one that is not there.
  have vacant {id : LoaderId} (last : id.index = area.loaders.size) : area.loader? id = none := by
    rw [← Option.not_isSome_iff_eq_none, loader?_isSome_iff]
    omega
  constructor
  · intro id known
    rw [same known]
    exact known
  · intro id known
    rw [parent?, same known, parent?]
  · intro id known
    rw [source?, same known, source?]
  · intro id
    rw [type?, class?, added, type?, class?]
    split
    next last =>
      rw [vacant last]
      rfl
    next => rfl
  · intro id sought
    rw [lookup?, added, lookup?]
    split
    next last =>
      rw [vacant last]
      rfl
    next => rfl
  · intro id
    rw [linking, added, linking]
    split
    next last =>
      rw [vacant last]
      rfl
    next => rfl
  · intro id there
    rw [added] at there
    split at there
    next last =>
      refine Or.inr ⟨parent.getD .bootstrap, ?_⟩
      rw [parent?, added, if_pos last]
      rfl
    next => exact Or.inl there

/-- Whatever happens is a load or makes no difference to loads. -/
theorem Step.load_or_idle (step : Step before after) :
    (∃ id name, after = ((Area.load id name).outcome before).2) ∨ before.Idle after := by
  cases step with
  | load id name => exact Or.inl ⟨id, name, rfl⟩
  | addLoader name source parent => exact Or.inr (idle_addLoader name source parent before)
  | addDefinition id definition =>
    rw [outcome_addDefinition]
    exact Or.inr (idle_updateLoader before id (fun loader => loader.addDefinition definition)
      (fun _ => rfl) (fun _ => rfl) (fun _ => rfl) (fun _ => rfl)
      (type?_updateLoader (fun loader => loader.addDefinition definition) (fun _ => rfl) before))
  | note id progress mirror pool => exact Or.inr (idle_updateClass before id fun _ => rfl)
  | hand id handle =>
    exact Or.inr (idle_updateLoader before id (fun loader => { loader with handle })
      (fun _ => rfl) (fun _ => rfl) (fun _ => rfl) (fun _ => rfl)
      (type?_updateLoader (fun loader => { loader with handle }) (fun _ => rfl) before))

theorem Step.wellFormed (step : Step before after) (fine : before.WellFormed) :
    after.WellFormed := by
  cases step with
  | addLoader name source parent issued => exact wellFormed_addLoader fine name source issued
  | addDefinition id definition => exact wellFormed_addDefinition fine id definition
  | load id name => exact wellFormed_load fine id name
  | note id progress mirror pool => exact wellFormed_updateClass fine id fun _ => rfl
  | hand id handle => exact wellFormed_hand fine id handle

/-- A load leaves the frame of every loader alone. -/
theorem WellFormed.sameFrame_load (fine : area.WellFormed) (id : LoaderId) (name : ClassName) :
    area.SameFrame ((load id name).outcome area).2 := by
  cases present : area.loader? id with
  | none =>
    rw [outcome_load_unknown present]
    exact fun _ => rfl
  | some loader =>
    exact (safe_load name fine (Option.isSome_iff_exists.2 ⟨loader, present⟩)).grows.frame

/-- A loader keeps its parent. -/
theorem Step.parent? (step : Step before after) (fine : before.WellFormed) {id : LoaderId}
    (known : (before.loader? id).isSome) : after.parent? id = before.parent? id := by
  rcases step.load_or_idle with ⟨asked, name, rfl⟩ | idle
  · exact (fine.sameFrame_load asked name).parent? id
  · exact idle.parent known

/-! ## A settled area remembers rightly -/

/-- What is remembered on one base is remembered on another that matches it. -/
theorem Memory.carry (memory : base.Memory area)
    (matching : Matching (fun id => (base.loader? id).isSome) base other)
    (sources : ∀ {id}, (base.loader? id).isSome → other.source? id = base.source? id)
    (plan : other.SamePlan after) (types : ∀ id, after.type? id = area.type? id)
    (answers : ∀ id name, after.lookup? id name = area.lookup? id name)
    (unlinked : ∀ id, after.linking id = []) : other.Memory after := by
  have kept {id : LoaderId} {name : ClassName} {found : ClassId}
      (answered : area.lookup? id name = some found) : after.lookup? id name = some found :=
    (answers id name).trans answered
  constructor
  · exact plan
  · intro primitive
    rcases memory.primitives primitive with ⟨id, home, typed⟩
    exact ⟨id, home, (types id).trans typed⟩
  · intro id type typed ordinary reference
    rw [types] at typed
    rcases memory.made typed ordinary reference with ⟨definition, built⟩
    rcases Option.bind_eq_some_iff.1 built.defined with ⟨loader, present, _⟩
    have known := Option.isSome_iff_exists.2 ⟨loader, present⟩
    have later := built.mono kept
    refine ⟨definition, { later with defined := ?_, source := ?_, missing := ?_ }⟩
    · exact (matching.definitions known _).trans later.defined
    · exact (sources known).trans later.source
    · intro parent below
      rw [matching.parents known] at below
      rcases later.missing parent below with ⟨missing, notFound⟩
      exact ⟨missing, notFound.transfer matching (matching.closed known below)⟩
  · intro id name found answered
    rw [answers] at answered
    have justified := (memory.answers answered).mono kept
    refine ⟨fun ordinary elsewhere => ?_, justified.array⟩
    rcases justified.delegated ordinary elsewhere with ⟨parent, below, answeredAbove⟩
    rcases loader?_of_parent? below with ⟨loader, present⟩
    have known := Option.isSome_iff_exists.2 ⟨loader, present⟩
    exact ⟨parent, (matching.parents known).trans below, answeredAbove⟩
  · intro id name member
    rw [unlinked] at member
    cases member

/-- What can be said of an area with settled definitions between loads. -/
structure Accounted (area : Area ι) : Prop where
  fine : area.WellFormed
  memory : area.Memory area
  unlinked : ∀ id, area.linking id = []
  parents : ∀ {id}, (area.loader? id).isSome →
    id = .bootstrap ∨ ∃ parent, area.parent? id = some parent

theorem Unused.accounted (unused : area.Unused) : area.Accounted where
  fine := unused.reachable.wellFormed
  memory := unused.bare.memory
  unlinked := unused.bare.unlinked
  parents := unused.bare.parents

/-- An area matches another if the loaders that it has keep their parents and all
definitions are the same. -/
theorem Accounted.matching (accounted : before.Accounted)
    (parents : ∀ {id}, (before.loader? id).isSome → after.parent? id = before.parent? id)
    (definitions : ∀ id name, after.definition? id name = before.definition? id name) :
    Matching (fun id => (before.loader? id).isSome) before after where
  rooted := accounted.fine.rooted
  top := accounted.memory.top accounted.fine
  parents known := parents known
  closed _ below := accounted.fine.parent_known below
  definitions _ name := definitions _ name

theorem Accounted.idle (accounted : before.Accounted) (fine : after.WellFormed)
    (idle : before.Idle after)
    (definitions : ∀ id name, after.definition? id name = before.definition? id name) :
    after.Accounted where
  fine := fine
  memory := by
    refine accounted.memory.carry (accounted.matching idle.parent definitions) idle.source
      ⟨fun _ => rfl, fun _ _ => rfl, fun _ => rfl⟩ idle.type idle.answer fun id => ?_
    rw [idle.linking]
    exact accounted.unlinked id
  unlinked id := by
    rw [idle.linking]
    exact accounted.unlinked id
  parents {id} there := by
    rcases idle.below there with known | below
    · rw [idle.parent known]
      exact accounted.parents known
    · exact Or.inr below

theorem Accounted.after_load (accounted : area.Accounted) (id : LoaderId) (name : ClassName) :
    ((load id name).outcome area).2.Accounted := by
  cases known : area.loader? id with
  | none =>
    rw [outcome_load_unknown known]
    exact accounted
  | some loader =>
    have present := Option.isSome_iff_exists.2 ⟨loader, known⟩
    have safe := safe_load name accounted.fine present
    have frame := safe.grows.frame
    have recalls := recalls_load name accounted.fine accounted.memory present accounted.unlinked
    have unlinked (other : LoaderId) :
        ((load id name).outcome area).2.linking other = [] := by
      rw [frame.linking]
      exact accounted.unlinked other
    refine ⟨safe.wellFormed, ?_, unlinked, fun {other} there => ?_⟩
    · have matching := accounted.matching (fun _ => frame.parent? _) frame.definition?
      exact recalls.memory.carry matching (fun _ => frame.samePlan.source _)
        ⟨fun _ => rfl, fun _ _ => rfl, fun _ => rfl⟩ (fun _ => rfl) (fun _ _ => rfl) unlinked
    · rw [frame.isSome] at there
      rw [frame.parent?]
      exact accounted.parents there

/-! ## From one area to a later one -/

theorem Proceeds.accounted (proceeds : before.Proceeds after) (accounted : before.Accounted) :
    after.Accounted := by
  rcases proceeds with ⟨step, definitions⟩
  rcases step.load_or_idle with ⟨id, name, rfl⟩ | idle
  · exact accounted.after_load id name
  · exact accounted.idle (step.wellFormed accounted.fine) idle definitions

theorem Continues.accounted (onward : before.Continues after) (accounted : before.Accounted) :
    after.Accounted := by
  induction onward with
  | refl => exact accounted
  | tail _ proceeds inductiveStep => exact proceeds.accounted inductiveStep

theorem Settled.accounted (settled : area.Settled) : area.Accounted := by
  rcases settled with ⟨start, unused, onward⟩
  exact onward.accounted unused.accounted

theorem Continues.definition? (onward : before.Continues after) (id : LoaderId)
    (name : ClassName) : after.definition? id name = before.definition? id name := by
  induction onward with
  | refl => rfl
  | tail _ proceeds inductiveStep => exact (proceeds.2 id name).trans inductiveStep

theorem Continues.parent? (onward : before.Continues after) (accounted : before.Accounted)
    {id : LoaderId} (known : (before.loader? id).isSome) :
    after.parent? id = before.parent? id := by
  induction onward with
  | refl => rfl
  | tail earlier proceeds inductiveStep =>
    have fine := (Continues.accounted earlier accounted).fine
    exact (proceeds.1.parent? fine ((Continues.retains earlier).loader known)).trans inductiveStep

/-- A later area resolves requests through the loaders of an earlier one as the
earlier one does. -/
theorem Continues.matching (onward : before.Continues after) (accounted : before.Accounted) :
    Matching (fun id => (before.loader? id).isSome) before after :=
  accounted.matching (onward.parent? accounted) onward.definition?

theorem Continues.delegates (onward : before.Continues after) (accounted : before.Accounted)
    {id ancestor : LoaderId} (asked : before.Delegates id ancestor) :
    after.Delegates id ancestor := by
  refine Relation.ReflTransGen.mono (fun child parent below => ?_) _ _ asked
  rcases loader?_of_parent? below with ⟨loader, known⟩
  rw [onward.parent? accounted (Option.isSome_iff_exists.2 ⟨loader, known⟩)]
  exact below

theorem proceeds_load (accounted : area.Accounted) (id : LoaderId) (name : ClassName) :
    area.Proceeds ((load id name).outcome area).2 :=
  ⟨.load id name, (accounted.fine.sameFrame_load id name).definition?⟩

/-- The bootstrap loader is asked on behalf of every loader. -/
theorem Accounted.rooted (accounted : area.Accounted) {id : LoaderId}
    (known : (area.loader? id).isSome) : area.Delegates id .bootstrap := by
  rcases accounted.parents known with rfl | ⟨parent, below⟩
  · exact Relation.ReflTransGen.refl
  · have lower := accounted.fine.descending below
    exact Relation.ReflTransGen.head below
      (accounted.rooted (accounted.fine.parent_known below))
termination_by id.index

/-! ## What a load answers -/

/-- A load ends with a class where resolution ends there, and with the same error
otherwise. -/
theorem Accounted.load_spec (accounted : area.Accounted) {id : LoaderId}
    (known : (area.loader? id).isSome) (name : ClassName) :
    (∃ cause, ((load id name).outcome area).1 = .error (.error cause) ∧
      area.Resolves (.load [] id name) (.error cause)) ∨
    ∃ found type, ((load id name).outcome area).1 = .ok found ∧
      area.Resolves (.load [] id name) (.ok found.loader) ∧
      ((load id name).outcome area).2.type? found = some type ∧ type.name = name := by
  have safe := safe_load name accounted.fine known
  have recalls := recalls_load name accounted.fine accounted.memory known accounted.unlinked
  generalize (load id name).outcome area = outcome at safe recalls ⊢
  rcases outcome with ⟨fault | found, after⟩
  · rcases safe.cause fault rfl with ⟨cause, rfl⟩
    exact Or.inl ⟨cause, rfl, recalls.failed rfl⟩
  · rcases safe.wellFormed.answered (safe.result found rfl) with ⟨_, type, typed, named⟩
    exact Or.inr ⟨found, type, rfl, recalls.found rfl, typed, named⟩

section

variable {id : LoaderId} {name : ClassName}

theorem isSome_of_load_ok {found : ClassId} (ended : ((load id name).outcome area).1 = .ok found) :
    (area.loader? id).isSome := by
  cases known : area.loader? id with
  | some => rfl
  | none =>
    rw [outcome_load_unknown known] at ended
    cases ended

theorem isSome_of_load_error {cause : RuntimeError}
    (ended : ((load id name).outcome area).1 = .error (.error cause)) :
    (area.loader? id).isSome := by
  cases known : area.loader? id with
  | some => rfl
  | none =>
    rw [outcome_load_unknown known] at ended
    cases ended

theorem Accounted.resolves_ok (accounted : area.Accounted) {found : ClassId}
    (ended : ((load id name).outcome area).1 = .ok found) :
    area.Resolves (.load [] id name) (.ok found.loader) ∧
      ∃ type, ((load id name).outcome area).2.type? found = some type ∧ type.name = name := by
  rcases accounted.load_spec (isSome_of_load_ok ended) name with
    ⟨cause, failed, _⟩ | ⟨same, type, endedSame, resolved, typed, named⟩
  · rw [ended] at failed
    cases failed
  · rw [ended] at endedSame
    cases endedSame
    exact ⟨resolved, type, typed, named⟩

theorem Accounted.resolves_error (accounted : area.Accounted) {cause : RuntimeError}
    (ended : ((load id name).outcome area).1 = .error (.error cause)) :
    area.Resolves (.load [] id name) (.error cause) := by
  rcases accounted.load_spec (isSome_of_load_error ended) name with
    ⟨same, failed, resolved⟩ | ⟨found, _, found', _⟩
  · rw [ended] at failed
    cases failed
    exact resolved
  · rw [ended] at found'
    cases found'

/-- Resolution tells how a load ends. -/
theorem Accounted.load_error (accounted : area.Accounted) (known : (area.loader? id).isSome)
    {cause : RuntimeError} (resolved : area.Resolves (.load [] id name) (.error cause)) :
    ((load id name).outcome area).1 = .error (.error cause) := by
  have top := accounted.memory.top accounted.fine
  rcases accounted.load_spec known name with ⟨other, failed, again⟩ | ⟨_, _, _, again, _⟩
  · cases resolved.unique top again
    exact failed
  · cases resolved.unique top again

theorem Accounted.load_ok (accounted : area.Accounted) (known : (area.loader? id).isSome)
    {home : LoaderId} (resolved : area.Resolves (.load [] id name) (.ok home)) :
    ∃ found, ((load id name).outcome area).1 = .ok found ∧ found.loader = home := by
  have top := accounted.memory.top accounted.fine
  rcases accounted.load_spec known name with ⟨_, _, again⟩ | ⟨found, _, ended, again, _⟩
  · cases resolved.unique top again
  · cases resolved.unique top again
    exact ⟨found, ended, rfl⟩

/-- A loader with a parent has built what it answers with a class of its own. -/
theorem Accounted.built_of_own (accounted : area.Accounted) {parent : LoaderId}
    (below : area.parent? id = some parent) (ordinary : ¬ name.isArray) {found : ClassId}
    (answered : area.lookup? id name = some found) (home : found.loader = id) :
    ∃ type definition, area.type? found = some type ∧ type.name = name ∧
      area.Built area found type definition := by
  have fine := accounted.fine
  rcases fine.answered answered with ⟨_, type, typed, rfl⟩
  have reference : type.kind ≠ .primitive := by
    intro primitive
    have lower := fine.descending below
    rw [← home, (fine.primitive_home typed primitive).1] at lower
    exact absurd lower (Nat.not_lt_zero _)
  rcases accounted.memory.made typed ordinary reference with ⟨definition, built⟩
  exact ⟨type, definition, typed, rfl, built⟩

/-- A load that fails at one time fails in the same way at any other. -/
theorem Accounted.load_fails (accounted : before.Accounted) (onward : before.Continues after)
    (known : (before.loader? id).isSome) (cause : RuntimeError) :
    ((load id name).outcome before).1 = .error (.error cause) ↔
      ((load id name).outcome after).1 = .error (.error cause) := by
  have accountedAfter := onward.accounted accounted
  have matching := onward.matching accounted
  have top := accountedAfter.memory.top accountedAfter.fine
  constructor
  · intro failed
    apply accountedAfter.load_error (onward.retains.loader known)
    exact (accounted.resolves_error failed).transfer matching known
  · intro failed
    have resolved := accountedAfter.resolves_error failed
    rcases accounted.load_spec known name with ⟨other, failedOther, again⟩ | ⟨_, _, _, again, _⟩
    · cases resolved.unique top (again.transfer matching known)
      exact failedOther
    · cases resolved.unique top (again.transfer matching known)

end

end Area
end ClassRuntime

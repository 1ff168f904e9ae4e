import ClassRuntime.Proofs.Class.Extension
import ClassRuntime.Proofs.Loader.Assembly
import ClassRuntime.Proofs.Loader.Hierarchy

namespace ClassRuntime
namespace Area

/-!
# Grounded areas

That no handle dangles among classes does not depend on the order of loaders.  A
loader may have been given a parent that does not exist, that is added later, or
that leads back to the loader itself.  Loads through it may fail and may use up
their limits, but what they leave in an area is still answers that are classes and
classes that refer to classes, and an array stands after its component at the same
loader.  So the graph of an area is founded whatever has happened, and
assignability comes to an answer for all of its classes.

The reason why it holds of a new class is that whatever it refers to has just been
found.
-/

variable {ι : Type} {area before middle after : Area ι}

/-- Answers are classes, and classes refer to classes. -/
structure Grounded (area : Area ι) : Prop where
  answered : ∀ {id name found}, area.lookup? id name = some found → (area.class? found).isSome
  closed : ∀ {id type}, area.type? id = some type → ∀ other ∈ type.references,
    (area.class? other).isSome
  component : ∀ {id type component}, area.type? id = some type →
    type.component = some component → component < id

/-- A grounded area does not cease to be one. -/
def StaysGrounded (before after : Area ι) : Prop :=
  before.Grounded → after.Grounded

instance : IsPreorder (Area ι) StaysGrounded where
  refl _ grounded := grounded
  trans _ _ _ first second grounded := second (first grounded)

/-! ## The graph of a later area -/

/-- Each handle is given out once. -/
theorem nodup_classIds (area : Area ι) : area.classIds.Nodup := by
  refine List.nodup_flatMap.2 ⟨fun entry _ => ?_, ?_⟩
  · refine List.nodup_range.map fun first second same => ?_
    exact congrArg ClassId.index same
  · have numbered : (area.loaders.toList.zipIdx.map Prod.snd).Nodup := by
      rw [List.zipIdx_map_snd]
      exact List.nodup_range'
    refine (List.pairwise_map.1 numbered).imp fun different id member other => different ?_
    rcases List.mem_map.1 member with ⟨_, _, rfl⟩
    rcases List.mem_map.1 other with ⟨_, _, same⟩
    exact (congrArg (fun id => id.loader.index) same).symm

theorem Retains.extends (retains : before.Retains after) : before.graph.Extends after.graph where
  type id type typed := by
    rw [graph_type_eq_ok] at typed ⊢
    exact retains.type typed
  bound := by
    refine (before.nodup_classIds.subperm fun id member => ?_).length_le
    exact mem_classIds.2 (retains.isSome (mem_classIds.1 member))

namespace Grounded

/-! ## Each change keeps an area grounded -/

theorem of_resembles (grounded : before.Grounded) (same : before.Resembles after) :
    after.Grounded := by
  have classes {id : ClassId} (known : (before.class? id).isSome) : (after.class? id).isSome := by
    rw [isSome_class?_iff] at known ⊢
    rwa [same.type]
  constructor
  · intro id name found answered
    rw [same.answer] at answered
    exact classes (grounded.answered answered)
  · intro id type typed other member
    rw [same.type] at typed
    exact classes (grounded.closed typed other member)
  · intro id type component typed has
    rw [same.type] at typed
    exact grounded.component typed has

theorem answer (grounded : area.Grounded) (id : LoaderId) (name : ClassName) {found : ClassId}
    (known : (area.class? found).isSome) :
    (area.updateLoader id fun loader => loader.answer name found).Grounded := by
  have types := type?_answer area id name found
  have classes {other : ClassId} (known : (area.class? other).isSome) :
      ((area.updateLoader id fun loader => loader.answer name found).class? other).isSome := by
    rwa [class?_updateLoader (fun loader => loader.answer name found) fun _ => rfl]
  constructor
  · intro home sought other answered
    cases present : area.loader? id with
    | none =>
      rw [updateLoader_of_unknown present] at answered
      exact classes (grounded.answered answered)
    | some loader =>
      rw [lookup?_answer present] at answered
      split at answered
      next here =>
        cases answered
        exact classes known
      next => exact classes (grounded.answered answered)
  · intro other type typed sought member
    rw [types] at typed
    exact classes (grounded.closed typed sought member)
  · intro other type component typed has
    rw [types] at typed
    exact grounded.component typed has

/-- A class can be added if what it refers to is there, and its component at the
same loader. -/
theorem place (grounded : area.Grounded) {id : LoaderId} {loader : Loader ι} {name : ClassName}
    {loaded : LoadedClass ι} (known : area.loader? id = some loader)
    (closed : ∀ other ∈ loaded.references, (area.class? other).isSome)
    (home : ∀ component ∈ loaded.component, component.loader = id) :
    (placed area id loader name loaded).Grounded := by
  have types (other : ClassId) : (placed area id loader name loaded).type? other =
      if other = ⟨id, loader.classes.size⟩ then some loaded.toTypeDescriptor
      else area.type? other :=
    type?_placed known other
  have grown {other : ClassId} (there : (area.class? other).isSome) :
      ((placed area id loader name loaded).class? other).isSome := by
    rw [isSome_class?_iff] at there ⊢
    rcases there with ⟨type, typed⟩
    rw [types]
    split
    · exact ⟨_, rfl⟩
    · exact ⟨type, typed⟩
  constructor
  · intro other sought found answered
    rw [lookup?_placed known] at answered
    split at answered
    next here =>
      cases answered
      rw [isSome_class?_iff, types, if_pos rfl]
      exact ⟨_, rfl⟩
    next => exact grown (grounded.answered answered)
  · intro other type typed sought member
    rw [types] at typed
    split at typed
    · cases typed
      exact grown (closed sought member)
    · exact grown (grounded.closed typed sought member)
  · intro other type component typed has
    rw [types] at typed
    split at typed
    next here =>
      cases typed
      have there : (area.class? component).isSome := by
        refine closed component ?_
        rw [TypeDescriptor.references, has]
        exact List.mem_append_right _ List.mem_cons_self
      rcases isSome_class?_iff.1 there with ⟨element, typedElement⟩
      rw [here]
      exact WellFormed.lt_next known typedElement
        (Nat.le_of_eq (congrArg LoaderId.index (home component has)))
    next => exact grounded.component typed has

theorem founded (grounded : area.Grounded) : area.graph.Founded where
  listed {id} := by
    change id ∈ area.classIds ↔ _
    simp only [graph_type_eq_ok]
    exact mem_classIds.trans isSome_class?_iff
  inherited {id type other} typed member :=
    mem_classIds.2
      (grounded.closed (graph_type_eq_ok.1 typed) other (List.mem_append_left _ member))
  component {id type component} typed has := by
    rw [graph_type_eq_ok] at typed
    refine ⟨grounded.component typed has, mem_classIds.2 (grounded.closed typed component ?_)⟩
    rw [TypeDescriptor.references, has]
    exact List.mem_append_right _ List.mem_cons_self

end Grounded

/-! ## Loading -/

theorem Grounded.change (grounded : before.Grounded) (change : before.Change after) :
    after.Grounded := by
  cases change with
  | mark id unanswered => exact grounded.of_resembles (resembles_mark before id _)
  | unmark id name => exact grounded.of_resembles (resembles_unmark before id name)
  | answer id answered passed => exact grounded.answer id _ (grounded.answered answered)
  | @declare id loader name definition type marked once known defined declares =>
    have unmarked : (before.updateLoader id fun loader => loader.unmark name).Grounded :=
      grounded.of_resembles (resembles_unmark before id name)
    refine unmarked.place known (fun other member => ?_) fun component has => ?_
    · rw [class?_updateLoader (fun loader => loader.unmark name) fun _ => rfl]
      exact declares.closed other member
    · rw [LoadedClass.fresh, declares.component] at has
      cases has
  | array named known behind isRoot isCloneable isSerializable =>
    refine grounded.place known (fun other member => ?_) fun component has => ?_
    · simp only [LoadedClass.fresh, TypeDescriptor.references, TypeDescriptor.supertypes, arrayType,
        Option.toList_some, List.cons_append, List.nil_append, List.mem_cons, List.not_mem_nil,
        or_false] at member
      rcases member with rfl | rfl | rfl | rfl
      · exact grounded.answered isRoot
      · exact grounded.answered isCloneable
      · exact grounded.answered isSerializable
      · exact isSome_class?_iff.2 ⟨_, behind⟩
    · cases has
      rfl

theorem staysGrounded_load (id : LoaderId) (name : ClassName) :
    (load id name : Action (Area ι) ClassId).Within StaysGrounded :=
  fun area grounded =>
    (builds_load id name area).assembles.keeps (fun change holds => holds.change change) grounded

end Area
end ClassRuntime

import ClassRuntime.Loader.BootPath
import ClassRuntime.Proofs.Loader.Reachable

namespace ClassRuntime

/-!
# The graph of descriptors

The descriptors of an area form a graph through their superclasses, interfaces
and components.  In an area that has come about by creating loaders, defining
and loading, every reference leads to an earlier class.  So no handle dangles,
no chain of references returns to where it began, and components lead from an
array down to a class that is none.
-/

/-- The classes to which a descriptor refers. -/
def TypeDescriptor.references (type : TypeDescriptor) : List ClassId :=
  type.supertypes ++ type.component.toList

namespace Area

variable {ι : Type} {area : Area ι}

/-- The first class refers to the second. -/
def Refers (area : Area ι) (id other : ClassId) : Prop :=
  ∃ type, area.type? id = some type ∧ other ∈ type.references

/-- The second class is the component of the first. -/
def HasComponent (area : Area ι) (id other : ClassId) : Prop :=
  ∃ type, area.type? id = some type ∧ type.component = some other

/-- The handle is that of a class of the given kind. -/
def HasKind (area : Area ι) (id : ClassId) (kind : Kind) : Prop :=
  ∃ type, area.type? id = some type ∧ type.kind = kind

/-- The conditions on the descriptor behind a handle. -/
structure Consistent (area : Area ι) (id : ClassId) (type : TypeDescriptor) : Prop where
  /-- Every reference leads to an earlier class that exists. -/
  earlier : ∀ other ∈ type.references, other < id ∧ (area.class? other).isSome
  /-- Arrays and no others have a component. -/
  component : type.component.isSome ↔ type.kind = .array
  /-- The components below an array end in a class that is no array. -/
  element : type.kind = .array → ∃ element kind, kind ≠ .array ∧
    Relation.ReflTransGen area.HasComponent id element ∧ area.HasKind element kind
  rootless : type.kind = .interface ∨ type.kind = .primitive → type.superclass = none
  bare : type.kind = .primitive → type.interfaces = []
  superclass : type.kind = .ordinary → ∀ other ∈ type.superclass, area.HasKind other .ordinary
  interfaces : type.kind = .ordinary ∨ type.kind = .interface →
    ∀ other ∈ type.interfaces, area.HasKind other .interface

/-! ## References lead to earlier classes -/

theorem IsBoot.exists {id : ClassId} {name : ClassName} (boot : area.IsBoot id name) :
    (area.class? id).isSome := by
  rcases boot with ⟨_, type, typed, _⟩
  rcases class?_of_type? typed with ⟨loaded, found, _⟩
  exact Option.isSome_iff_exists.2 ⟨loaded, found⟩

theorem IsEarlier.exists {later id : ClassId} {kind : Kind}
    (earlier : area.IsEarlier later kind id) : id < later ∧ (area.class? id).isSome := by
  rcases earlier with ⟨lower, type, typed, _⟩
  rcases class?_of_type? typed with ⟨loaded, found, _⟩
  exact ⟨lower, Option.isSome_iff_exists.2 ⟨loaded, found⟩⟩

theorem Linked.references_earlier {id : ClassId} {type : TypeDescriptor}
    (linked : area.Linked id type) :
    ∀ other ∈ type.references, other < id ∧ (area.class? other).isSome := by
  intro other member
  cases linked with
  | primitive primitive home => cases member
  | array named home behind earlier isRoot isCloneable isSerializable =>
    rcases class?_of_type? behind with ⟨loaded, found, _⟩
    simp only [TypeDescriptor.references, TypeDescriptor.supertypes, arrayType,
      Option.toList_some, List.cons_append, List.nil_append, List.mem_cons, List.not_mem_nil,
      or_false] at member
    rcases member with rfl | rfl | rfl | rfl
    · exact ⟨earlier _ (by simp), isRoot.exists⟩
    · exact ⟨earlier _ (by simp), isCloneable.exists⟩
    · exact ⟨earlier _ (by simp), isSerializable.exists⟩
    · exact ⟨earlier _ (by simp), Option.isSome_iff_exists.2 ⟨loaded, found⟩⟩
  | declared named kind component superclass interfaces =>
    rw [TypeDescriptor.references, component, Option.toList_none, List.append_nil,
      TypeDescriptor.supertypes, List.mem_append, Option.mem_toList] at member
    rcases member with inherited | implemented
    · exact (superclass other inherited).exists
    · exact (interfaces other implemented).exists

/-- Along a chain of references handles go down. -/
theorem WellFormed.lt_of_refers (fine : area.WellFormed) {id other : ClassId}
    (chain : Relation.TransGen area.Refers id other) : other < id := by
  induction chain with
  | single step =>
    rcases step with ⟨type, typed, member⟩
    exact ((fine.linked typed).references_earlier _ member).1
  | tail _ step inductiveStep =>
    rcases step with ⟨type, typed, member⟩
    exact ClassId.lt_trans ((fine.linked typed).references_earlier _ member).1 inductiveStep

/-! ## Components and kinds -/

theorem Linked.component_iff {id : ClassId} {type : TypeDescriptor}
    (linked : area.Linked id type) : type.component.isSome ↔ type.kind = .array := by
  cases linked with
  | primitive primitive home =>
    exact iff_of_false (by simp [Loader.primitiveType]) (by simp [Loader.primitiveType])
  | array => exact iff_of_true rfl rfl
  | declared named kind component =>
    refine iff_of_false (by rw [component]; simp) fun isArray => ?_
    rcases kind with ordinary | ⟨isInterface, _⟩
    · rw [isArray] at ordinary
      cases ordinary
    · rw [isArray] at isInterface
      cases isInterface

/-- The component of an array exists and is earlier than the array, so that the
way down ends, and where it ends there is no array. -/
theorem WellFormed.element (fine : area.WellFormed) (id : ClassId) {type : TypeDescriptor}
    (typed : area.type? id = some type) : ∃ element kind, kind ≠ .array ∧
      Relation.ReflTransGen area.HasComponent id element ∧ area.HasKind element kind := by
  by_cases isArray : type.kind = .array
  · have linked := fine.linked typed
    rcases Option.isSome_iff_exists.1 (linked.component_iff.2 isArray) with ⟨component, below⟩
    have member : component ∈ type.references := by
      rw [TypeDescriptor.references, below]
      exact List.mem_append_right _ List.mem_cons_self
    have earlier := linked.references_earlier component member
    rcases Option.isSome_iff_exists.1 earlier.2 with ⟨loaded, found⟩
    have descends := earlier.1
    rcases fine.element component (type?_of_class? found) with ⟨element, kind, other, chain, kinded⟩
    exact ⟨element, kind, other, Relation.ReflTransGen.head ⟨type, typed, below⟩ chain, kinded⟩
  · exact ⟨id, type.kind, isArray, Relation.ReflTransGen.refl, type, typed, rfl⟩
termination_by id

theorem WellFormed.consistent (fine : area.WellFormed) {id : ClassId} {type : TypeDescriptor}
    (typed : area.type? id = some type) : area.Consistent id type where
  earlier := (fine.linked typed).references_earlier
  component := (fine.linked typed).component_iff
  element _ := fine.element id typed
  rootless kinded := by
    cases fine.linked typed with
    | primitive primitive home => rfl
    | array => rcases kinded with impossible | impossible <;> cases impossible
    | declared named kind component superclass interfaces =>
      rcases kind with ordinary | ⟨_, none⟩
      · rw [ordinary] at kinded
        rcases kinded with impossible | impossible <;> cases impossible
      · exact none
  bare kinded := by
    cases fine.linked typed with
    | primitive primitive home => rfl
    | array => cases kinded
    | declared named kind component superclass interfaces =>
      rcases kind with other | ⟨other, _⟩ <;> rw [kinded] at other <;> cases other
  superclass kinded other member := by
    cases fine.linked typed with
    | primitive primitive home => cases kinded
    | array => cases kinded
    | declared named kind component superclass interfaces => exact (superclass other member).2
  interfaces kinded other member := by
    cases fine.linked typed with
    | primitive primitive home => cases member
    | array => rcases kinded with impossible | impossible <;> cases impossible
    | declared named kind component superclass interfaces => exact (interfaces other member).2

/-- The descriptors of every reachable area are consistent, and no class is
reached from itself along references. -/
theorem Reachable.descriptors_consistent (reachable : area.Reachable) :
    (∀ id loaded, area.class? id = some loaded → area.Consistent id loaded.toTypeDescriptor) ∧
      ∀ id, ¬ Relation.TransGen area.Refers id id := by
  have fine := reachable.wellFormed
  constructor
  · intro id loaded found
    exact fine.consistent (type?_of_class? found)
  · intro id cycle
    exact ClassId.lt_irrefl id (fine.lt_of_refers cycle)

/-- The case of the boot path with an array of arrays, for which five classes
come to the nine primitive types. -/
theorem descriptors_consistent_boot :
    let area := ((load .bootstrap "[[Ljava/lang/Object;").outcome
      (initial (BootPath.definitions : List (ClassDefinition Unit)))).2
    area.classIds.length = 14 ∧
      (∀ id loaded, area.class? id = some loaded → area.Consistent id loaded.toTypeDescriptor) ∧
      ∀ id, ¬ Relation.TransGen area.Refers id id :=
  ⟨by decide +kernel, Reachable.descriptors_consistent (.load _ _ (.initial _))⟩

end Area
end ClassRuntime

import ClassRuntime.Proofs.Loader.Growth

namespace ClassRuntime
namespace Area

/-!
# Well-formed areas

An area is well formed when the chains of parents descend, definitions are kept
under their own names, an answer is a class of the asked name from a loader
that is asked on the way, and every class is linked.  What it is to be linked
depends on where the class comes from: a primitive type stands alone, an array
rests on its component and on three classes of the bootstrap loader, and any
other class on the classes that its definition names.

In every case the classes that a class rests on are earlier ones.  This is the
reason why no reference dangles and no chain of references returns.

A loader answers the name of each of its own classes with that class, so that
it has only one of a name.  For this it must not define a class under a name
that is already being linked, and a name with a mark has no class of the loader.
-/

variable {ι : Type} {area before after : Area ι}

/-- The handle is that of a class of the bootstrap loader with the given name. -/
def IsBoot (area : Area ι) (id : ClassId) (name : ClassName) : Prop :=
  id.loader = .bootstrap ∧ ∃ type, area.type? id = some type ∧ type.name = name

/-- The handle is that of an earlier class of the given kind. -/
def IsEarlier (area : Area ι) (later : ClassId) (kind : Kind) (id : ClassId) : Prop :=
  id < later ∧ ∃ type, area.type? id = some type ∧ type.kind = kind

/-- What the type behind a handle may refer to. -/
inductive Linked (area : Area ι) (id : ClassId) : TypeDescriptor → Prop
  /-- A primitive type refers to nothing. -/
  | primitive (type : Primitive) (home : id.loader = .bootstrap) :
      Linked area id (Loader.primitiveType type)
  /-- An array lives with its component.  It has the root as its superclass
  and two further classes of the bootstrap loader as interfaces. -/
  | array {name : ClassName} {component : ClassId} {element : TypeDescriptor}
      {root cloneable serializable : ClassId}
      (named : name.component? = some element.name)
      (home : component.loader = id.loader) (behind : area.type? component = some element)
      (earlier : ∀ other ∈ [component, root, cloneable, serializable], other < id)
      (isRoot : area.IsBoot root .object) (isCloneable : area.IsBoot cloneable .cloneable)
      (isSerializable : area.IsBoot serializable .serializable) :
      Linked area id (arrayType name component element root [cloneable, serializable])
  /-- A class with a definition extends an ordinary class and implements
  interfaces.  An interface extends nothing. -/
  | declared {type : TypeDescriptor} (named : ¬ type.name.isArray)
      (kind : type.kind = .ordinary ∨ type.kind = .interface ∧ type.superclass = none)
      (component : type.component = none)
      (superclass : ∀ other ∈ type.superclass, area.IsEarlier id .ordinary other)
      (interfaces : ∀ other ∈ type.interfaces, area.IsEarlier id .interface other) :
      Linked area id type

/-- A class that a loader may answer a name with. -/
def Found (area : Area ι) (id : LoaderId) (name : ClassName) (found : ClassId) : Prop :=
  area.Delegates id found.loader ∧ ∃ type, area.type? found = some type ∧ type.name = name

/-- A class that a loader may be made to answer a name with: the loader has no
other class of the name and is not about to define one. -/
structure Eligible (area : Area ι) (id : LoaderId) (name : ClassName) (found : ClassId) :
    Prop where
  asked : area.Found id name found
  own : ∀ {other type}, area.type? other = some type → other.loader = id → type.name = name →
    other = found
  unmarked : name ∈ area.linking id → found.loader ≠ id

/-- The invariant of areas. -/
structure WellFormed (area : Area ι) : Prop where
  rooted : (area.loader? .bootstrap).isSome
  descending : ∀ {id parent}, area.parent? id = some parent → parent.index < id.index
  keyed : ∀ {id name definition}, area.definition? id name = some definition →
    definition.name = name
  answered : ∀ {id name found}, area.lookup? id name = some found → area.Found id name found
  linked : ∀ {id type}, area.type? id = some type → area.Linked id type
  recorded : ∀ {id type}, area.type? id = some type →
    area.lookup? id.loader type.name = some id
  marked : ∀ {id name}, name ∈ area.linking id → ¬ name.isArray ∧
    ∀ {found}, area.lookup? id name = some found → found.loader ≠ id

/-! ## Facts last -/

theorem IsBoot.grow {id : ClassId} {name : ClassName}
    (types : ∀ {id type}, before.type? id = some type → after.type? id = some type)
    (boot : before.IsBoot id name) : after.IsBoot id name := by
  rcases boot with ⟨home, type, typed, named⟩
  exact ⟨home, type, types typed, named⟩

theorem IsEarlier.grow {later id : ClassId} {kind : Kind}
    (types : ∀ {id type}, before.type? id = some type → after.type? id = some type)
    (earlier : before.IsEarlier later kind id) : after.IsEarlier later kind id := by
  rcases earlier with ⟨lower, type, typed, kinded⟩
  exact ⟨lower, type, types typed, kinded⟩

theorem Linked.grow {id : ClassId} {type : TypeDescriptor}
    (types : ∀ {id type}, before.type? id = some type → after.type? id = some type)
    (linked : before.Linked id type) : after.Linked id type := by
  cases linked with
  | primitive type home => exact Linked.primitive type home
  | array named home behind earlier isRoot isCloneable isSerializable =>
    exact Linked.array named home (types behind) earlier (isRoot.grow types)
      (isCloneable.grow types) (isSerializable.grow types)
  | declared named kind component superclass interfaces =>
    exact Linked.declared named kind component
      (fun other member => (superclass other member).grow types)
      (fun other member => (interfaces other member).grow types)

theorem Found.mono {id : LoaderId} {name : ClassName} {found : ClassId}
    (parents : ∀ {id parent}, before.parent? id = some parent → after.parent? id = some parent)
    (types : ∀ {id type}, before.type? id = some type → after.type? id = some type)
    (fine : before.Found id name found) : after.Found id name found := by
  rcases fine with ⟨asked, type, typed, named⟩
  exact ⟨Relation.ReflTransGen.mono (fun _ _ => parents) _ _ asked, type, types typed, named⟩

namespace WellFormed

/-- Apart from marks, well-formedness is a matter of what can be looked up. -/
theorem of_resembles (fine : before.WellFormed) (same : before.Resembles after)
    (marked : ∀ {id name}, name ∈ after.linking id → ¬ name.isArray ∧
      ∀ {found}, before.lookup? id name = some found → found.loader ≠ id) :
    after.WellFormed where
  rooted := (same.known _).trans fine.rooted
  descending {id parent} asked := fine.descending ((same.parent id).symm.trans asked)
  keyed {id _ _} found := same.keyed id (fun _ _ found => fine.keyed found) _ _ found
  answered {id name found} answer := by
    rw [same.answer] at answer
    exact (fine.answered answer).mono (fun {id _} asked => (same.parent id).trans asked)
      fun {id _} typed => (same.type id).trans typed
  linked {id type} typed := by
    rw [same.type] at typed
    exact (fine.linked typed).grow fun {id type} typed => (same.type id).trans typed
  recorded {id type} typed := by
    rw [same.type] at typed
    rw [same.answer]
    exact fine.recorded typed
  marked {id name} member := by
    rw [same.answer]
    exact marked member

/-- Within an unchanged frame, new answers and new types are all that matters. -/
theorem of_frame (fine : before.WellFormed) (frame : before.SameFrame after)
    (answered : ∀ {id name found}, after.lookup? id name = some found →
      after.Found id name found)
    (linked : ∀ {id type}, after.type? id = some type → after.Linked id type)
    (recorded : ∀ {id type}, after.type? id = some type →
      after.lookup? id.loader type.name = some id)
    (unmarked : ∀ {id name found}, name ∈ before.linking id →
      after.lookup? id name = some found → found.loader ≠ id) : after.WellFormed where
  rooted := by
    rw [frame.isSome]
    exact fine.rooted
  descending {id parent} asked := by
    rw [frame.parent?] at asked
    exact fine.descending asked
  keyed {id name definition} defined := by
    rw [frame.definition?] at defined
    exact fine.keyed defined
  answered := answered
  linked := linked
  recorded := recorded
  marked {id name} member := by
    rw [frame.linking] at member
    exact ⟨(fine.marked member).1, fun {_} answer => unmarked member answer⟩

/-- Two classes of one loader have different names. -/
theorem unique (fine : area.WellFormed) {first second : ClassId} {type other : TypeDescriptor}
    (typed : area.type? first = some type) (typedOther : area.type? second = some other)
    (home : first.loader = second.loader) (named : type.name = other.name) : first = second := by
  have answer := fine.recorded typed
  rw [home, named, fine.recorded typedOther] at answer
  exact (Option.some.inj answer).symm

theorem delegates_le (fine : area.WellFormed) {id ancestor : LoaderId}
    (asked : area.Delegates id ancestor) : ancestor.index ≤ id.index := by
  induction asked with
  | refl => exact Nat.le_refl _
  | tail _ step inductiveStep =>
    exact Nat.le_trans (Nat.le_of_lt (fine.descending step)) inductiveStep

/-- A parent has been issued before its child. -/
theorem parent_known (fine : area.WellFormed) {id parent : LoaderId}
    (asked : area.parent? id = some parent) : (area.loader? parent).isSome := by
  rcases loader?_of_parent? asked with ⟨loader, known⟩
  have bounded : id.index < area.loaders.size :=
    loader?_isSome_iff.1 (Option.isSome_iff_exists.2 ⟨loader, known⟩)
  rw [loader?_isSome_iff]
  exact Nat.lt_trans (fine.descending asked) bounded

/-- The class of an answer is in its place. -/
theorem class_known {id : ClassId} {type : TypeDescriptor} (typed : area.type? id = some type) :
    ∃ loader loaded, area.loader? id.loader = some loader ∧
      area.class? id = some loaded ∧ loaded.toTypeDescriptor = type := by
  rcases class?_of_type? typed with ⟨loaded, found, same⟩
  rcases Option.bind_eq_some_iff.1 found with ⟨loader, known, _⟩
  exact ⟨loader, loaded, known, found, same⟩

/-- What a loader answers already it may go on answering. -/
theorem eligible_of_lookup (fine : area.WellFormed) {id : LoaderId} {name : ClassName}
    {found : ClassId} (answered : area.lookup? id name = some found) :
    area.Eligible id name found where
  asked := fine.answered answered
  own {other type} typed home named := by
    have recorded := fine.recorded typed
    rw [home, named, answered] at recorded
    exact (Option.some.inj recorded).symm
  unmarked member := (fine.marked member).2 answered

/-- What the parent answers is found for the child. -/
theorem eligible_of_parent (fine : area.WellFormed) {id parent : LoaderId} {name : ClassName}
    {found : ClassId} (below : area.parent? id = some parent)
    (unanswered : area.lookup? id name = none)
    (answered : area.lookup? parent name = some found) : area.Eligible id name found where
  asked := by
    rcases fine.answered answered with ⟨asked, typed⟩
    exact ⟨Relation.ReflTransGen.head below asked, typed⟩
  own {other type} typed home named := by
    have recorded := fine.recorded typed
    rw [home, named, unanswered] at recorded
    cases recorded
  unmarked _ here := by
    have upwards := fine.delegates_le (fine.answered answered).1
    have lower := fine.descending below
    rw [here] at upwards
    exact Nat.not_lt_of_le upwards lower

/-! ## Each change keeps an area well formed -/

/-- A name can be marked as long as it has no answer. -/
theorem mark (fine : area.WellFormed) {id : LoaderId} {loader : Loader ι} {name : ClassName}
    (known : area.loader? id = some loader) (named : ¬ name.isArray)
    (unanswered : area.lookup? id name = none) :
    (area.updateLoader id fun loader => loader.mark name).WellFormed := by
  refine fine.of_resembles (resembles_mark area id name) fun {home other} member => ?_
  rw [linking_updateLoader known] at member
  split at member
  next here =>
    subst here
    rcases List.mem_cons.1 member with same | earlier
    · rw [same]
      refine ⟨named, fun answered => ?_⟩
      rw [unanswered] at answered
      cases answered
    · rw [← linking_eq known] at earlier
      exact fine.marked earlier
  next => exact fine.marked member

theorem unmark (fine : area.WellFormed) {id : LoaderId} {loader : Loader ι}
    (known : area.loader? id = some loader) (name : ClassName) :
    (area.updateLoader id fun loader => loader.unmark name).WellFormed := by
  refine fine.of_resembles (resembles_unmark area id name) fun {home other} member => ?_
  rw [linking_updateLoader known] at member
  split at member
  next here =>
    subst here
    have earlier := List.mem_of_mem_erase member
    rw [← linking_eq known] at earlier
    exact fine.marked earlier
  next => exact fine.marked member

theorem answer (fine : area.WellFormed) {id : LoaderId} {name : ClassName} {found : ClassId}
    (known : (area.loader? id).isSome) (eligible : area.Eligible id name found) :
    (area.updateLoader id fun loader => loader.answer name found).WellFormed := by
  have frame := sameFrame_answer area id name found
  have types := type?_answer area id name found
  rcases Option.isSome_iff_exists.1 known with ⟨loader, present⟩
  have keep {home : LoaderId} {sought : ClassName} {other : ClassId}
      (fine : area.Found home sought other) :
      (area.updateLoader id fun loader => loader.answer name found).Found home sought other :=
    fine.mono (fun {child _} asked => (frame.parent? child).trans asked)
      fun {child _} typed => (types child).trans typed
  apply fine.of_frame frame
  · intro home sought other answer
    rw [lookup?_answer present] at answer
    split at answer
    next here =>
      rcases here with ⟨rfl, rfl⟩
      cases answer
      exact keep eligible.asked
    next => exact keep (fine.answered answer)
  · intro other type typed
    rw [types] at typed
    exact (fine.linked typed).grow fun {child _} typed => (types child).trans typed
  · intro other type typed
    rw [types] at typed
    rw [lookup?_answer present]
    split
    next here => rw [eligible.own typed here.1.symm here.2.symm]
    next => exact fine.recorded typed
  · intro home sought other member answer
    rw [lookup?_answer present] at answer
    split at answer
    next here =>
      rcases here with ⟨rfl, rfl⟩
      cases answer
      exact eligible.unmarked member
    next => exact (fine.marked member).2 answer

/-- A linked class takes the next place at its loader. -/
theorem place (fine : area.WellFormed) {id : LoaderId} {loader : Loader ι} {name : ClassName}
    {loaded : LoadedClass ι} (known : area.loader? id = some loader)
    (linked : area.Linked ⟨id, loader.classes.size⟩ loaded.toTypeDescriptor)
    (named : loaded.name = name)
    (fresh : ∀ {other}, area.lookup? id name = some other → other.loader ≠ id)
    (unmarked : name ∉ area.linking id) : (placed area id loader name loaded).WellFormed := by
  have frame : area.SameFrame (placed area id loader name loaded) := sameFrame_placed
  have grown {other : ClassId} {type : TypeDescriptor} (typed : area.type? other = some type) :
      (placed area id loader name loaded).type? other = some type := by
    rw [placed, type?_answer]
    exact (grows_push known loaded).type typed
  apply fine.of_frame frame
  · intro home sought other answer
    rw [lookup?_placed known] at answer
    split at answer
    next here =>
      rcases here with ⟨rfl, rfl⟩
      cases answer
      refine ⟨Relation.ReflTransGen.refl, loaded.toTypeDescriptor, ?_, named⟩
      rw [type?_placed known, if_pos rfl]
    next =>
      exact (fine.answered answer).mono (fun {child _} asked => (frame.parent? child).trans asked)
        grown
  · intro other type typed
    rw [type?_placed known] at typed
    split at typed
    next here =>
      subst here
      cases typed
      exact linked.grow grown
    next => exact (fine.linked typed).grow grown
  · intro other type typed
    rw [type?_placed known] at typed
    rw [lookup?_placed known]
    split at typed
    next here =>
      subst here
      cases typed
      rw [if_pos ⟨rfl, named.symm⟩]
    next =>
      have answered := fine.recorded typed
      rw [if_neg]
      · exact answered
      · rintro ⟨home, same⟩
        rw [← home, ← same] at answered
        exact fresh answered home.symm
  · intro home sought other member answer
    rw [lookup?_placed known] at answer
    split at answer
    next here =>
      rcases here with ⟨rfl, rfl⟩
      exact absurd member unmarked
    next => exact (fine.marked member).2 answer

/-- A class stands in the place that it was given. -/
theorem lt_next {id : ClassId} {type : TypeDescriptor} {home : LoaderId} {loader : Loader ι}
    (known : area.loader? home = some loader) (typed : area.type? id = some type)
    (below : id.loader.index ≤ home.index) : id < ⟨home, loader.classes.size⟩ := by
  rw [ClassId.lt_iff]
  rcases Nat.lt_or_eq_of_le below with lower | same
  · exact Or.inl lower
  · have here : id.loader = home := congrArg LoaderId.mk same
    refine Or.inr ⟨here, ?_⟩
    rcases class?_of_type? typed with ⟨loaded, found, _⟩
    rw [class?_eq (here ▸ known)] at found
    rcases Array.getElem?_eq_some_iff.1 found with ⟨bounded, _⟩
    exact bounded

end WellFormed
end Area
end ClassRuntime

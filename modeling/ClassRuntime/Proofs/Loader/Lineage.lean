import ClassRuntime.Proofs.Loader.Advance
import ClassRuntime.Proofs.Loader.Origin

namespace ClassRuntime
namespace Area

/-!
# Lineages

The lineage of a class consists of the class, its superclass, the superclass of that,
and so on up to a class that has none.  A class has one lineage at most, and no class
occurs in it twice.

Each class has a lineage because its superclass has been there before it.  This is so
however loaders are arranged, since a class refers only to classes that have been found.
-/

variable {ι : Type} {area before after : Area ι} {id other : ClassId} {chain : List ClassId}

/-- The classes from a class up to the last one above it, in this order. -/
inductive Lineage (area : Area ι) : ClassId → List ClassId → Prop
  | root {id : ClassId} {loaded : LoadedClass ι} (found : area.class? id = some loaded)
      (top : loaded.superclass = none) : Lineage area id [id]
  | extend {id superclass : ClassId} {above : List ClassId} (inherits : area.Extends id superclass)
      (lineage : Lineage area superclass above) : Lineage area id (id :: above)

/-- All classes have lineages. -/
def Lineal (area : Area ι) : Prop :=
  ∀ id, (area.class? id).isSome → ∃ chain, area.Lineage id chain

theorem Extends.unique {first second : ClassId} (inherits : area.Extends id first)
    (inheritsOther : area.Extends id second) : first = second := by
  rcases inherits with ⟨loaded, found, above⟩
  rcases inheritsOther with ⟨same, foundSame, aboveOther⟩
  rw [found] at foundSame
  cases foundSame
  exact Option.some.inj (above.symm.trans aboveOther)

theorem Extends.not_top {superclass : ClassId} {loaded : LoadedClass ι}
    (inherits : area.Extends id superclass) (found : area.class? id = some loaded) :
    loaded.superclass ≠ none := by
  rcases inherits with ⟨same, foundSame, above⟩
  rw [found] at foundSame
  cases foundSame
  rw [above]
  exact Option.some_ne_none _

namespace Lineage

theorem unique {otherChain : List ClassId} (lineage : area.Lineage id chain)
    (same : area.Lineage id otherChain) : chain = otherChain := by
  induction lineage generalizing otherChain with
  | root found top =>
    cases same with
    | root => rfl
    | extend inherits => exact absurd top (inherits.not_top found)
  | extend inherits _ inductiveStep =>
    cases same with
    | root found top => exact absurd top (inherits.not_top found)
    | extend inheritsOther rest =>
      cases inherits.unique inheritsOther
      rw [inductiveStep rest]

/-- From each of its classes on, a lineage is the lineage of this class. -/
theorem split (lineage : area.Lineage id chain) (member : other ∈ chain) :
    ∃ first rest, chain = first ++ rest ∧ area.Lineage other rest := by
  induction lineage with
  | root found top =>
    cases List.mem_singleton.1 member
    exact ⟨[], _, rfl, .root found top⟩
  | extend inherits lineage inductiveStep =>
    rcases List.mem_cons.1 member with rfl | above
    · exact ⟨[], _, rfl, .extend inherits lineage⟩
    · rcases inductiveStep above with ⟨first, rest, rfl, later⟩
      exact ⟨_ :: first, rest, rfl, later⟩

theorem nodup (lineage : area.Lineage id chain) : chain.Nodup := by
  induction lineage with
  | root => exact List.nodup_singleton _
  | @extend id superclass above inherits lineage inductiveStep =>
    refine List.nodup_cons.2 ⟨fun again => ?_, inductiveStep⟩
    rcases lineage.split again with ⟨first, rest, rfl, same⟩
    -- The lineage would be a part of itself.
    have longer := congrArg List.length (same.unique (.extend inherits lineage))
    simp only [List.length_append, List.length_cons] at longer
    omega

theorem known (lineage : area.Lineage id chain) (member : other ∈ chain) :
    (area.class? other).isSome := by
  rcases lineage.split member with ⟨_, _, _, own⟩
  cases own with
  | root found => exact Option.isSome_iff_exists.2 ⟨_, found⟩
  | extend inherits =>
    rcases inherits with ⟨loaded, found, _⟩
    exact Option.isSome_iff_exists.2 ⟨loaded, found⟩

theorem length_le (lineage : area.Lineage id chain) : chain.length ≤ area.classIds.length :=
  (lineage.nodup.subperm fun _ member => mem_classIds.2 (lineage.known member)).length_le

/-- A lineage remains one as long as types are kept. -/
theorem mono (types : ∀ {id type}, before.type? id = some type → after.type? id = some type)
    (lineage : before.Lineage id chain) : after.Lineage id chain := by
  have later {id : ClassId} {loaded : LoadedClass ι} (found : before.class? id = some loaded) :=
    class?_of_type? (types (type?_of_class? found))
  induction lineage with
  | root found top =>
    rcases later found with ⟨same, foundSame, type⟩
    exact .root foundSame (by rw [type]; exact top)
  | extend inherits _ inductiveStep =>
    rcases inherits with ⟨loaded, found, above⟩
    rcases later found with ⟨same, foundSame, type⟩
    exact .extend ⟨same, foundSame, by rw [type]; exact above⟩ inductiveStep

end Lineage

theorem Advances.type (advances : before.Advances after) {type : TypeDescriptor}
    (typed : before.type? id = some type) : after.type? id = some type := by
  rcases class?_of_type? typed with ⟨loaded, found, rfl⟩
  rcases advances id loaded found with ⟨later, foundLater, same, _⟩
  rw [type?_of_class? foundLater, same]

/-! ## Every class has a lineage -/

namespace Lineal

theorem of_records (lineal : before.Lineal) (same : before.SameRecords after) : after.Lineal := by
  intro id known
  rw [isSome_class?_iff] at known
  rcases known with ⟨type, typed⟩
  rw [same.type?] at typed
  rcases lineal id (isSome_class?_iff.2 ⟨type, typed⟩) with ⟨chain, lineage⟩
  exact ⟨chain, lineage.mono fun typed => (same.type? _).trans typed⟩

/-- The superclass of a class that is new has been there already. -/
theorem change (lineal : before.Lineal) (grounded : before.Grounded)
    (change : before.Change after) : after.Lineal := by
  intro id known
  rcases Option.isSome_iff_exists.1 known with ⟨loaded, found⟩
  rcases change.origin (blueprint?_of_class? found) with printed | origin
  · have there := isSome_class?_iff.2 ⟨_, type?_of_blueprint? printed⟩
    rcases lineal id there with ⟨chain, lineage⟩
    exact ⟨chain, lineage.mono change.typed⟩
  · cases above : loaded.superclass with
    | none => exact ⟨[id], .root found above⟩
    | some superclass =>
      rcases lineal superclass (origin.known grounded above) with ⟨chain, lineage⟩
      exact ⟨id :: chain, .extend ⟨loaded, found, above⟩ (lineage.mono change.typed)⟩

theorem initial (definitions : List (ClassDefinition ι)) : (Area.initial definitions).Lineal := by
  intro id known
  rcases Option.isSome_iff_exists.1 known with ⟨loaded, found⟩
  rcases class?_initial found with ⟨primitive, rfl⟩
  exact ⟨[id], .root found rfl⟩

end Lineal

end Area
end ClassRuntime

import ClassRuntime.Proofs.Loader.Origin
import Mathlib.Tactic.IntervalCases

namespace ClassRuntime

/-!
# What arrays have from their elements

An array is given its place, its source and its visibility by its component, which may
be an array itself.  So in the end it has them from the class at the end of its
components.  Everything else about it is the same for all arrays.

The visibility of a component is read off its flags.  These are either flags of a class
that is no array, or they have been put together in the same way before, and then there
is nothing more to be read off them than there was.
-/

namespace AccessFlags

/-- The flags of an array of an element with the given flags. -/
def ofArray (flags : AccessFlags) : AccessFlags :=
  flags &&& .visibility ||| .finalFlag ||| .abstractFlag

/-- An array is as visible as its element. -/
theorem ofArray_ofArray (flags : AccessFlags) : flags.ofArray.ofArray = flags.ofArray := by
  have visible : (flags.bits &&& 7#16 ||| 16#16 ||| 1024#16) &&& 7#16 = flags.bits &&& 7#16 := by
    ext place bounded
    interval_cases place <;> simp
  exact congrArg (fun bits => mk (bits ||| 16#16 ||| 1024#16)) visible

/-- All flags of an array are seen as modifiers. -/
theorem modifiers_ofArray (flags : AccessFlags) :
    flags.ofArray.modifiers = Int32.ofNat flags.ofArray.bits.toNat := by
  have kept : (flags.bits &&& 7#16 ||| 16#16 ||| 1024#16) &&& ~~~32#16 =
      flags.bits &&& 7#16 ||| 16#16 ||| 1024#16 := by
    ext place bounded
    interval_cases place <;> simp
  exact congrArg (fun bits => Int32.ofNat bits.toNat) kept

theorem not_contains_ofArray (flags : AccessFlags) : flags.ofArray.contains superFlag = false := by
  have missing : (flags.bits &&& 7#16 ||| 16#16 ||| 1024#16) &&& 32#16 = 0#16 := by
    ext place bounded
    interval_cases place <;> simp
  have differs : ¬ (flags.bits &&& 7#16 ||| 16#16 ||| 1024#16) &&& 32#16 = 32#16 := by
    rw [missing]
    decide
  exact decide_eq_false differs

end AccessFlags

namespace Area

variable {ι : Type} {area : Area ι} {id component element : ClassId}
  {type elementType : TypeDescriptor} {initializer : Option ι}

/-- Components lead from the first class, an array, to the second, which is none. -/
structure IsElement (area : Area ι) (id element : ClassId) : Prop where
  chain : Relation.TransGen area.HasComponent id element
  plain : ¬ area.HasKind element .array

/-- What an array has from its element, and what all arrays have in common. -/
structure Inherits (area : Area ι) (id : ClassId) (type : TypeDescriptor) (initializer : Option ι)
    (element : ClassId) (elementType : TypeDescriptor) : Prop where
  home : id.loader = element.loader
  source : type.source = elementType.source
  flags : type.flags = elementType.flags.ofArray
  superclass : type.superclass = area.lookup? .bootstrap .object
  interfaces : type.interfaces.map some =
    [area.lookup? .bootstrap .cloneable, area.lookup? .bootstrap .serializable]
  initializer : initializer = none
  enclosure : type.enclosure = none
  declaring : type.declaringName? = none

namespace Origin

/-- Only arrays have components, and each array has one. -/
theorem isArray_iff (origin : area.Origin id type initializer) :
    type.kind = .array ↔ ∃ component, type.component = some component := by
  cases origin with
  | primitive primitive => simp [Loader.primitiveType]
  | @declared definition _ declares =>
    rw [declares.kind, declares.component, ClassDefinition.kind]
    split <;> simp
  | array => simp [arrayType]

/-- The flags of primitive types are those of their arrays. -/
theorem flags_of_primitive (origin : area.Origin id type initializer)
    (primitive : type.isPrimitive) :
    type.flags.ofArray = .publicFlag ||| .finalFlag ||| .abstractFlag := by
  have kind : type.kind = .primitive := of_decide_eq_true primitive
  cases origin with
  | primitive primitive =>
    change (AccessFlags.publicFlag ||| .finalFlag ||| .abstractFlag).ofArray = _
    decide
  | @declared definition _ declares =>
    rw [declares.kind, ClassDefinition.kind] at kind
    split at kind <;> cases kind
  | array => cases kind

/-- What an array has from its component. -/
theorem inherits (origin : area.Origin id type initializer)
    (below : type.component = some component) (behind : area.type? component = some elementType)
    {elementInitializer : Option ι}
    (basis : area.Origin component elementType elementInitializer) :
    area.Inherits id type initializer component elementType := by
  cases origin with
  | primitive primitive => cases below
  | declared declares =>
    rw [declares.component] at below
    cases below
  | array home there isRoot isCloneable isSerializable =>
    cases below
    rw [behind] at there
    cases there
    refine ⟨home.symm, rfl, ?_, isRoot.symm, ?_, rfl, rfl, rfl⟩
    · by_cases primitive : elementType.isPrimitive
      · rw [basis.flags_of_primitive primitive, arrayType, if_pos primitive]
      · rw [arrayType, if_neg primitive, AccessFlags.ofArray]
    · rw [isCloneable, isSerializable]
      rfl

/-- An array has the three classes of the bootstrap loader above it. -/
theorem boot (origin : area.Origin id type initializer) (isArray : type.kind = .array)
    (booted : area.Booted) : ∃ root cloneable serializable, type.superclass = some root ∧
      type.interfaces = [cloneable, serializable] ∧ area.IsBoot root .object ∧
      area.IsBoot cloneable .cloneable ∧ area.IsBoot serializable .serializable := by
  cases origin with
  | primitive => cases isArray
  | @declared definition _ declares =>
    rw [declares.kind, ClassDefinition.kind] at isArray
    split at isArray <;> cases isArray
  | array home behind isRoot isCloneable isSerializable =>
    exact ⟨_, _, _, rfl, rfl, booted.own (by decide) isRoot, booted.own (by decide) isCloneable,
      booted.own (by decide) isSerializable⟩

/-- The component of a class is a class. -/
theorem exists_component (origin : area.Origin id type initializer)
    (below : type.component = some component) : ∃ part, area.type? component = some part := by
  cases origin with
  | primitive primitive => cases below
  | declared declares =>
    rw [declares.component] at below
    cases below
  | array home behind =>
    cases below
    exact ⟨_, behind⟩

end Origin

/-- What a component has from its element, it passes on. -/
theorem Inherits.trans {part : TypeDescriptor} {partInitializer : Option ι}
    (first : area.Inherits id type initializer component part)
    (rest : area.Inherits component part partInitializer element elementType) :
    area.Inherits id type initializer element elementType where
  home := first.home.trans rest.home
  source := first.source.trans rest.source
  flags := by rw [first.flags, rest.flags, AccessFlags.ofArray_ofArray]
  superclass := first.superclass
  interfaces := first.interfaces
  initializer := first.initializer
  enclosure := first.enclosure
  declaring := first.declaring

namespace Traced

/-- The end of the components is reached, since they come one after another. -/
theorem exists_element (traced : area.Traced) (grounded : area.Grounded) {id : ClassId}
    {type : TypeDescriptor} (typed : area.type? id = some type) (isArray : type.kind = .array) :
    ∃ element, area.IsElement id element := by
  rcases blueprint?_of_type? typed with ⟨initializer, printed⟩
  rcases (traced.origin printed).isArray_iff.1 isArray with ⟨component, below⟩
  have has : area.HasComponent id component := ⟨type, typed, below⟩
  by_cases plain : area.HasKind component .array
  · rcases plain with ⟨elementType, behind, isArrayToo⟩
    have earlier := grounded.component typed below
    rcases exists_element traced grounded behind isArrayToo with ⟨element, chain, plain⟩
    exact ⟨element, chain.head has, plain⟩
  · exact ⟨component, .single has, plain⟩
termination_by id
decreasing_by exact earlier

/-- What stands at the end of components is a class. -/
theorem exists_type (traced : area.Traced) (ends : area.IsElement id element) :
    ∃ type, area.type? element = some type := by
  have reached : ∃ last, area.HasComponent last element := by
    cases ends.chain with
    | single has => exact ⟨id, has⟩
    | tail _ has => exact ⟨_, has⟩
  rcases reached with ⟨last, type, typed, below⟩
  rcases blueprint?_of_type? typed with ⟨initializer, printed⟩
  exact (traced.origin printed).exists_component below

/-- Dimension by dimension, an array has the same from the class at the end of its
components as its component has. -/
theorem inherits (traced : area.Traced) (ends : area.IsElement id element)
    (printed : area.blueprint? id = some (type, initializer))
    (behind : area.type? element = some elementType) :
    area.Inherits id type initializer element elementType := by
  rcases ends with ⟨chain, plain⟩
  induction chain using Relation.TransGen.head_induction_on generalizing type initializer with
  | single has =>
    rcases has with ⟨other, typed, below⟩
    rw [type?_of_blueprint? printed] at typed
    cases typed
    rcases blueprint?_of_type? behind with ⟨elementInitializer, printedElement⟩
    exact (traced.origin printed).inherits below behind (traced.origin printedElement)
  | head has _ inductiveStep =>
    rcases has with ⟨other, typed, below⟩
    rw [type?_of_blueprint? printed] at typed
    cases typed
    have origin := traced.origin printed
    rcases origin.exists_component below with ⟨part, typedPart⟩
    rcases blueprint?_of_type? typedPart with ⟨partInitializer, printedPart⟩
    exact (origin.inherits below typedPart (traced.origin printedPart)).trans
      (inductiveStep printedPart)

end Traced

end Area
end ClassRuntime

import ClassRuntime.Proofs.Class.Walk
import ClassRuntime.Proofs.Counting
import ClassRuntime.Proofs.Handle

namespace ClassRuntime
namespace ClassGraph

/-!
# Subtyping

Subtyping is the least preorder of classes that contains the steps to
superclasses, interfaces and the root and lifts to arrays.  Assignability is
not computed by closing off these steps.  It decides between a few cases, each
of which looks at its two classes only, and in the last of them it walks the
supertypes.

The cases are collected in a relation of their own.  In an orderly graph it is
transitive: nothing but arrays goes down into components, all arrays have the
same supertypes, and the root has none.  So it contains subtyping, and every
case is an instance of subtyping anyway.
-/

variable {graph : ClassGraph}

/-- The least reflexive and transitive relation with the steps between classes. -/
inductive Subtype (graph : ClassGraph) : ClassId → ClassId → Prop
  | refl {id : ClassId} {type : TypeDescriptor} :
      graph.type id = .ok type → Subtype graph id id
  | trans {first second third : ClassId} :
      Subtype graph first second → Subtype graph second third → Subtype graph first third
  | superclass {id other : ClassId} {type : TypeDescriptor} :
      graph.type id = .ok type → type.superclass = some other → Subtype graph id other
  | interface {id other : ClassId} {type : TypeDescriptor} :
      graph.type id = .ok type → other ∈ type.interfaces → Subtype graph id other
  | root {id root : ClassId} {type rootType : TypeDescriptor} :
      graph.type id = .ok type → type.kind ≠ .primitive → graph.type root = .ok rootType →
        root.loader = .bootstrap → rootType.name = .object → Subtype graph id root
  | sameComponent {first second component : ClassId} {firstType secondType : TypeDescriptor} :
      graph.type first = .ok firstType → firstType.kind = .array →
        graph.type second = .ok secondType → secondType.kind = .array →
        firstType.component = some component → secondType.component = some component →
          Subtype graph first second
  | covariant {first second firstComponent secondComponent : ClassId}
      {firstType secondType firstElement secondElement : TypeDescriptor} :
      graph.type first = .ok firstType → firstType.kind = .array →
        graph.type second = .ok secondType → secondType.kind = .array →
        firstType.component = some firstComponent →
        secondType.component = some secondComponent →
        graph.type firstComponent = .ok firstElement → firstElement.kind ≠ .primitive →
        graph.type secondComponent = .ok secondElement → secondElement.kind ≠ .primitive →
        Subtype graph firstComponent secondComponent → Subtype graph first second

theorem type_unique {id : ClassId} {type other : TypeDescriptor}
    (typed : graph.type id = .ok type) (again : graph.type id = .ok other) : type = other :=
  Except.ok.inj (typed.symm.trans again)

/-- What assignability relies on. -/
structure Orderly (graph : ClassGraph) : Prop where
  listed : ∀ {id}, id ∈ graph.ids ↔ ∃ type, graph.type id = .ok type
  /-- Supertypes are neither arrays nor primitive types. -/
  inherited : ∀ {id type other}, graph.type id = .ok type → other ∈ type.supertypes →
    ∃ inherited, graph.type other = .ok inherited ∧ inherited.kind ≠ .array ∧
      inherited.kind ≠ .primitive
  primitive : ∀ {id type}, graph.type id = .ok type → type.kind = .primitive →
    type.supertypes = []
  component : ∀ {id type}, graph.type id = .ok type →
    (type.component.isSome ↔ type.kind = .array)
  earlier : ∀ {id type component}, graph.type id = .ok type →
    type.component = some component → component < id ∧
      ∃ element, graph.type component = .ok element
  /-- All arrays have the same supertypes. -/
  arrays : ∀ {first second type other}, graph.type first = .ok type →
    graph.type second = .ok other → type.kind = .array → other.kind = .array →
      type.supertypes = other.supertypes
  root : ∀ {id type}, graph.type id = .ok type → id.loader = .bootstrap →
    type.name = .object → type.kind = .ordinary ∧ type.supertypes = []

/-- The number of classes before a class. -/
def rank (graph : ClassGraph) (id : ClassId) : Nat :=
  graph.ids.countP fun other => other < id

theorem rank_lt {earlier later : ClassId} (inside : earlier ∈ graph.ids)
    (before : earlier < later) : graph.rank earlier < graph.rank later := by
  refine countP_lt_countP (fun other _ lower => ?_) inside ?_ ?_
  · rw [decide_eq_true_eq] at lower ⊢
    exact ClassId.lt_trans lower before
  · rw [decide_eq_true_eq]
    exact ClassId.lt_irrefl earlier
  · rw [decide_eq_true_eq]
    exact before

/-- The cases of assignability. -/
inductive Accepted (graph : ClassGraph) : ClassId → ClassId → Prop
  | same {id : ClassId} {type : TypeDescriptor} :
      graph.type id = .ok type → Accepted graph id id
  | sameComponent {source target component : ClassId} {sourceType targetType : TypeDescriptor} :
      graph.type source = .ok sourceType → graph.type target = .ok targetType →
        sourceType.component = some component → targetType.component = some component →
          Accepted graph source target
  | covariant {source target sourceComponent targetComponent : ClassId}
      {sourceType targetType sourceElement targetElement : TypeDescriptor} :
      graph.type source = .ok sourceType → graph.type target = .ok targetType →
        sourceType.component = some sourceComponent →
        targetType.component = some targetComponent →
        graph.type sourceComponent = .ok sourceElement → sourceElement.kind ≠ .primitive →
        graph.type targetComponent = .ok targetElement → targetElement.kind ≠ .primitive →
        Accepted graph sourceComponent targetComponent → Accepted graph source target
  | root {source target : ClassId} {sourceType targetType : TypeDescriptor} :
      graph.type source = .ok sourceType → sourceType.kind ≠ .primitive →
        graph.type target = .ok targetType → targetType.isRoot target →
          Accepted graph source target
  | walked {source target : ClassId} {sourceType targetType : TypeDescriptor} :
      graph.type source = .ok sourceType → sourceType.kind ≠ .primitive →
        graph.type target = .ok targetType → targetType.kind ≠ .array →
        Relation.ReflTransGen graph.Inherits source target → Accepted graph source target

/-- One array is accepted for another if their components fit. -/
def Fits (graph : ClassGraph) (component other : ClassId) : Prop :=
  component = other ∨ ∃ element otherElement,
    graph.type component = .ok element ∧ element.kind ≠ .primitive ∧
      graph.type other = .ok otherElement ∧ otherElement.kind ≠ .primitive ∧
        graph.Accepted component other

theorem fits_iff {component other : ClassId} {element otherElement : TypeDescriptor}
    (typed : graph.type component = .ok element)
    (typedOther : graph.type other = .ok otherElement) :
    graph.Fits component other ↔ component = other ∨
      element.kind ≠ .primitive ∧ otherElement.kind ≠ .primitive ∧
        graph.Accepted component other := by
  refine or_congr_right ⟨?_, ?_⟩
  · rintro ⟨_, _, again, reference, againOther, otherReference, below⟩
    rcases type_unique typed again with rfl
    rcases type_unique typedOther againOther with rfl
    exact ⟨reference, otherReference, below⟩
  · rintro ⟨reference, otherReference, below⟩
    exact ⟨_, _, typed, reference, typedOther, otherReference, below⟩

theorem Accepted.typed {source target : ClassId} (accepted : graph.Accepted source target) :
    ∃ type, graph.type target = .ok type := by
  cases accepted with
  | same typed => exact ⟨_, typed⟩
  | sameComponent _ typedTarget => exact ⟨_, typedTarget⟩
  | covariant _ typedTarget => exact ⟨_, typedTarget⟩
  | root _ _ typedTarget => exact ⟨_, typedTarget⟩
  | walked _ _ typedTarget => exact ⟨_, typedTarget⟩

theorem Accepted.of_fits {source target component other : ClassId}
    {sourceType targetType : TypeDescriptor} (typed : graph.type source = .ok sourceType)
    (typedTarget : graph.type target = .ok targetType)
    (has : sourceType.component = some component) (hasTarget : targetType.component = some other)
    (fits : graph.Fits component other) : graph.Accepted source target := by
  rcases fits with rfl | ⟨_, _, typedElement, reference, typedOther, otherReference, below⟩
  · exact Accepted.sameComponent typed typedTarget has hasTarget
  · exact Accepted.covariant typed typedTarget has hasTarget typedElement reference typedOther
      otherReference below

/-! ## The cases contain subtyping -/

theorem Subtype.of_reaches {first second : ClassId} {type : TypeDescriptor}
    (typed : graph.type first = .ok type)
    (chain : Relation.ReflTransGen graph.Inherits first second) :
    graph.Subtype first second := by
  induction chain with
  | refl => exact Subtype.refl typed
  | tail _ step inductiveStep =>
    rcases step with ⟨current, typedCurrent, member⟩
    apply Subtype.trans inductiveStep
    rcases List.mem_append.1 member with extended | implemented
    · exact Subtype.superclass typedCurrent (Option.mem_toList.1 extended)
    · exact Subtype.interface typedCurrent implemented

theorem ordinary_of_isRoot {id : ClassId} {type : TypeDescriptor} (isRoot : type.isRoot id) :
    type.kind = .ordinary := by
  simp only [TypeDescriptor.isRoot, Bool.and_eq_true, decide_eq_true_eq] at isRoot
  exact isRoot.1.2

section

variable (orderly : graph.Orderly)

include orderly

/-- What inherits is no primitive type, and neither is what is inherited. -/
theorem Orderly.kinds {id other : ClassId} {type : TypeDescriptor}
    (typed : graph.type id = .ok type) (member : other ∈ type.supertypes) :
    type.kind ≠ .primitive ∧ ∃ inherited, graph.type other = .ok inherited ∧
      inherited.kind ≠ .array ∧ inherited.kind ≠ .primitive := by
  refine ⟨fun primitive => ?_, orderly.inherited typed member⟩
  rw [orderly.primitive typed primitive] at member
  cases member

theorem Orderly.closed : graph.Closed := by
  intro id inside
  rcases orderly.listed.1 inside with ⟨type, typed⟩
  refine ⟨type, typed, fun other member => orderly.listed.2 ?_⟩
  rcases orderly.inherited typed member with ⟨inherited, typedOther, _⟩
  exact ⟨inherited, typedOther⟩

/-- A step to a supertype is a case of assignability. -/
theorem Accepted.of_inherits {id other : ClassId} (step : graph.Inherits id other) :
    graph.Accepted id other := by
  rcases step with ⟨type, typed, member⟩
  rcases orderly.kinds typed member with ⟨reference, inherited, typedOther, notArray, _⟩
  exact Accepted.walked typed reference typedOther notArray
    (Relation.ReflTransGen.single ⟨type, typed, member⟩)

/-- A class with a component is an array. -/
theorem Orderly.isArray {id component : ClassId} {type : TypeDescriptor}
    (typed : graph.type id = .ok type) (has : type.component = some component) :
    type.kind = .array :=
  (orderly.component typed).1 (Option.isSome_iff_exists.2 ⟨component, has⟩)

/-- What inherits from an array's supertypes inherits from those of any array. -/
theorem Orderly.reaches {first second target : ClassId} {type other targetType : TypeDescriptor}
    (typed : graph.type first = .ok type) (isArray : type.kind = .array)
    (typedOther : graph.type second = .ok other) (otherArray : other.kind = .array)
    (typedTarget : graph.type target = .ok targetType) (notArray : targetType.kind ≠ .array)
    (chain : Relation.ReflTransGen graph.Inherits second target) :
    Relation.ReflTransGen graph.Inherits first target := by
  rcases Relation.ReflTransGen.cases_head chain with rfl | ⟨next, ⟨same, again, member⟩, rest⟩
  · rcases type_unique typedOther typedTarget with rfl
    exact absurd otherArray notArray
  · rcases type_unique typedOther again with rfl
    rw [← orderly.arrays typed typedOther isArray otherArray] at member
    exact Relation.ReflTransGen.head ⟨type, typed, member⟩ rest

/-- Nothing is inherited by the root. -/
theorem Orderly.root_reaches {root target : ClassId} {rootType : TypeDescriptor}
    (typed : graph.type root = .ok rootType) (isRoot : rootType.isRoot root)
    (chain : Relation.ReflTransGen graph.Inherits root target) : target = root := by
  simp only [TypeDescriptor.isRoot, Bool.and_eq_true, decide_eq_true_eq] at isRoot
  rcases Relation.ReflTransGen.cases_head chain with rfl | ⟨next, ⟨same, again, member⟩, _⟩
  · rfl
  · rcases type_unique typed again with rfl
    rw [(orderly.root typed isRoot.1.1 isRoot.2).2] at member
    cases member

/-- A class that is no array is accepted for every array or for none. -/
theorem Accepted.of_array {first second target : ClassId} {type other targetType : TypeDescriptor}
    (typed : graph.type first = .ok type) (isArray : type.kind = .array)
    (typedOther : graph.type second = .ok other) (otherArray : other.kind = .array)
    (typedTarget : graph.type target = .ok targetType) (notArray : targetType.kind ≠ .array)
    (accepted : graph.Accepted second target) : graph.Accepted first target := by
  have reference : type.kind ≠ .primitive := by
    rw [isArray]
    simp
  cases accepted with
  | same =>
    rcases type_unique typedOther typedTarget with rfl
    exact absurd otherArray notArray
  | sameComponent _ again _ has | covariant _ again _ has =>
    rcases type_unique typedTarget again with rfl
    exact absurd (orderly.isArray typedTarget has) notArray
  | root _ _ again isRoot => exact Accepted.root typed reference again isRoot
  | walked _ _ again notArray chain =>
    exact Accepted.walked typed reference again notArray
      (orderly.reaches typed isArray typedOther otherArray again notArray chain)

/-- What the cases say of two arrays. -/
theorem Accepted.fits {source target component other : ClassId}
    {sourceType targetType : TypeDescriptor} (typed : graph.type source = .ok sourceType)
    (typedTarget : graph.type target = .ok targetType)
    (has : sourceType.component = some component) (hasTarget : targetType.component = some other)
    (accepted : graph.Accepted source target) : graph.Fits component other := by
  have isArray := orderly.isArray typedTarget hasTarget
  cases accepted with
  | same =>
    rcases type_unique typed typedTarget with rfl
    rw [has] at hasTarget
    exact Or.inl (Option.some.inj hasTarget)
  | sameComponent again againTarget hasAgain hasTargetAgain =>
    rcases type_unique typed again with rfl
    rcases type_unique typedTarget againTarget with rfl
    rw [hasTarget, ← hasAgain, has] at hasTargetAgain
    exact Or.inl (Option.some.inj hasTargetAgain).symm
  | covariant again againTarget hasAgain hasTargetAgain element reference otherElement
      otherReference below =>
    rcases type_unique typed again with rfl
    rcases type_unique typedTarget againTarget with rfl
    rw [has] at hasAgain
    cases hasAgain
    rw [hasTarget] at hasTargetAgain
    cases hasTargetAgain
    exact Or.inr ⟨_, _, element, reference, otherElement, otherReference, below⟩
  | root _ _ againTarget isRoot =>
    rcases type_unique typedTarget againTarget with rfl
    rw [ordinary_of_isRoot isRoot] at isArray
    cases isArray
  | walked _ _ againTarget notArray =>
    rcases type_unique typedTarget againTarget with rfl
    exact absurd isArray notArray

/-- What an array is accepted for is an array whose component fits, or no array
at all and so accepted for every array. -/
theorem Accepted.cases_of_array {first second third component : ClassId}
    {type other : TypeDescriptor} (typed : graph.type first = .ok type)
    (isArray : type.kind = .array) (typedOther : graph.type second = .ok other)
    (has : other.component = some component) (accepted : graph.Accepted second third) :
    graph.Accepted first third ∨ ∃ targetType element, graph.type third = .ok targetType ∧
      targetType.component = some element ∧ graph.Fits component element := by
  rcases accepted.typed with ⟨targetType, typedTarget⟩
  by_cases targetArray : targetType.kind = .array
  · rcases Option.isSome_iff_exists.1 ((orderly.component typedTarget).2 targetArray) with
      ⟨element, hasTarget⟩
    exact Or.inr ⟨targetType, element, typedTarget, hasTarget,
      accepted.fits orderly typedOther typedTarget has hasTarget⟩
  · exact Or.inl (Accepted.of_array orderly typed isArray typedOther
      (orderly.isArray typedOther has) typedTarget targetArray accepted)

/-- The cases compose.  The induction goes down into the components of arrays,
where the first of two steps between arrays meets the second. -/
theorem Accepted.trans {first second third : ClassId} (before : graph.Accepted first second)
    (after : graph.Accepted second third) : graph.Accepted first third := by
  induction before generalizing third with
  | same => exact after
  | sameComponent typed typedOther has hasOther =>
    rcases Accepted.cases_of_array orderly typed (orderly.isArray typed has) typedOther hasOther
      after with accepted | ⟨_, _, typedThird, hasThird, fits⟩
    · exact accepted
    · exact Accepted.of_fits typed typedThird has hasThird fits
  | covariant typed typedOther has hasOther typedElement reference typedOtherElement
      otherReference below inductiveStep =>
    rcases Accepted.cases_of_array orderly typed (orderly.isArray typed has) typedOther hasOther
      after with accepted | ⟨_, _, typedThird, hasThird, fits⟩
    · exact accepted
    · rcases fits with rfl | ⟨_, _, _, _, typedThirdElement, thirdReference, further⟩
      · exact Accepted.covariant typed typedThird has hasThird typedElement reference
          typedOtherElement otherReference below
      · exact Accepted.covariant typed typedThird has hasThird typedElement reference
          typedThirdElement thirdReference (inductiveStep further)
  | root typed reference typedRoot isRoot =>
    cases after with
    | same => exact Accepted.root typed reference typedRoot isRoot
    | sameComponent again _ has | covariant again _ has =>
      rcases type_unique typedRoot again with rfl
      have isArray := orderly.isArray typedRoot has
      rw [ordinary_of_isRoot isRoot] at isArray
      cases isArray
    | root _ _ typedThird thirdRoot => exact Accepted.root typed reference typedThird thirdRoot
    | walked _ _ _ _ chain =>
      rw [orderly.root_reaches typedRoot isRoot chain]
      exact Accepted.root typed reference typedRoot isRoot
  | walked typed reference typedOther notArray chain =>
    cases after with
    | same => exact Accepted.walked typed reference typedOther notArray chain
    | sameComponent again _ has | covariant again _ has =>
      rcases type_unique typedOther again with rfl
      exact absurd (orderly.isArray typedOther has) notArray
    | root _ _ typedThird isRoot => exact Accepted.root typed reference typedThird isRoot
    | walked _ _ typedThird thirdNotArray further =>
      exact Accepted.walked typed reference typedThird thirdNotArray (chain.trans further)

theorem Accepted.of_subtype {first second : ClassId} (below : graph.Subtype first second) :
    graph.Accepted first second := by
  induction below with
  | refl typed => exact Accepted.same typed
  | trans _ _ before after => exact before.trans orderly after
  | superclass typed extended =>
    refine Accepted.of_inherits orderly ⟨_, typed, ?_⟩
    rw [TypeDescriptor.supertypes, extended]
    exact List.mem_cons_self
  | interface typed implemented =>
    exact Accepted.of_inherits orderly ⟨_, typed, List.mem_append_right _ implemented⟩
  | root typed reference typedRoot home named =>
    apply Accepted.root typed reference typedRoot
    simp only [TypeDescriptor.isRoot, Bool.and_eq_true, decide_eq_true_eq]
    exact ⟨⟨home, (orderly.root typedRoot home named).1⟩, named⟩
  | sameComponent typed _ typedOther _ has hasOther =>
    exact Accepted.sameComponent typed typedOther has hasOther
  | covariant typed _ typedOther _ has hasOther typedElement reference typedOtherElement
      otherReference _ inductiveStep =>
    exact Accepted.covariant typed typedOther has hasOther typedElement reference
      typedOtherElement otherReference inductiveStep

/-! ## Every case is an instance of subtyping -/

theorem Accepted.subtype {source target : ClassId} (accepted : graph.Accepted source target) :
    graph.Subtype source target := by
  induction accepted with
  | same typed => exact Subtype.refl typed
  | sameComponent typed typedOther has hasOther =>
    exact Subtype.sameComponent typed (orderly.isArray typed has) typedOther
      (orderly.isArray typedOther hasOther) has hasOther
  | covariant typed typedOther has hasOther typedElement reference typedOtherElement
      otherReference _ inductiveStep =>
    exact Subtype.covariant typed (orderly.isArray typed has) typedOther
      (orderly.isArray typedOther hasOther) has hasOther typedElement reference
      typedOtherElement otherReference inductiveStep
  | root typed reference typedRoot isRoot =>
    simp only [TypeDescriptor.isRoot, Bool.and_eq_true, decide_eq_true_eq] at isRoot
    exact Subtype.root typed reference typedRoot isRoot.1.1 isRoot.2
  | walked typed _ _ _ chain => exact Subtype.of_reaches typed chain

theorem accepted_iff_subtype {source target : ClassId} :
    graph.Accepted source target ↔ graph.Subtype source target :=
  ⟨fun accepted => accepted.subtype orderly, Accepted.of_subtype orderly⟩

/-! ## Assignability decides between the cases -/

/-- Within the limit assignability comes to the answer that the cases give. -/
def Decides (graph : ClassGraph) (limit : Nat) (source target : ClassId) : Prop :=
  ∃ answer, graph.assignableWithin limit source target = .ok answer ∧
    (answer = true ↔ graph.Accepted source target)

section

variable {source target : ClassId} {sourceType targetType : TypeDescriptor}
  (different : source ≠ target) (typed : graph.type source = .ok sourceType)
  (typedTarget : graph.type target = .ok targetType)

include different typed typedTarget

/-- A primitive type is accepted only for itself. -/
theorem not_accepted_primitive
    (primitive : sourceType.kind = .primitive ∨ targetType.kind = .primitive) :
    ¬ graph.Accepted source target := by
  intro accepted
  cases accepted with
  | same => exact different rfl
  | sameComponent again againTarget has hasTarget | covariant again againTarget has hasTarget =>
    have isArray := orderly.isArray again has
    have targetArray := orderly.isArray againTarget hasTarget
    rcases type_unique typed again with rfl
    rcases type_unique typedTarget againTarget with rfl
    rcases primitive with impossible | impossible
    · rw [isArray] at impossible
      cases impossible
    · rw [targetArray] at impossible
      cases impossible
  | root again reference againTarget isRoot =>
    rcases type_unique typed again with rfl
    rcases type_unique typedTarget againTarget with rfl
    rcases primitive with impossible | impossible
    · exact reference impossible
    · rw [ordinary_of_isRoot isRoot] at impossible
      cases impossible
  | walked again reference againTarget _ chain =>
    rcases type_unique typed again with rfl
    rcases primitive with impossible | impossible
    · exact reference impossible
    · rcases Relation.ReflTransGen.cases_tail chain with rfl | ⟨_, _, _, typedLast, member⟩
      · exact different rfl
      · rcases orderly.inherited typedLast member with ⟨inherited, typedThere, _, other⟩
        rcases type_unique typedTarget typedThere with rfl
        exact other impossible

omit orderly in
/-- Only arrays are accepted for an array. -/
theorem not_accepted_array (isArray : targetType.kind = .array)
    (none : sourceType.component = none) : ¬ graph.Accepted source target := by
  intro accepted
  cases accepted with
  | same => exact different rfl
  | sameComponent again _ has | covariant again _ has =>
    rcases type_unique typed again with rfl
    rw [none] at has
    cases has
  | root _ _ againTarget isRoot =>
    rcases type_unique typedTarget againTarget with rfl
    rw [ordinary_of_isRoot isRoot] at isArray
    cases isArray
  | walked _ _ againTarget notArray =>
    rcases type_unique typedTarget againTarget with rfl
    exact notArray isArray

/-- For a class that is no array the root and the walk decide. -/
theorem accepted_class_iff (reference : sourceType.kind ≠ .primitive)
    (notArray : targetType.kind ≠ .array) :
    graph.Accepted source target ↔
      targetType.isRoot target ∨ Relation.ReflTransGen graph.Inherits source target := by
  constructor
  · intro accepted
    cases accepted with
    | same => exact absurd rfl different
    | sameComponent _ againTarget _ hasTarget | covariant _ againTarget _ hasTarget =>
      rcases type_unique typedTarget againTarget with rfl
      exact absurd (orderly.isArray typedTarget hasTarget) notArray
    | root _ _ againTarget isRoot =>
      rcases type_unique typedTarget againTarget with rfl
      exact Or.inl isRoot
    | walked _ _ _ _ chain => exact Or.inr chain
  · rintro (isRoot | chain)
    · exact Accepted.root typed reference typedTarget isRoot
    · exact Accepted.walked typed reference typedTarget notArray chain

theorem decides_primitive (limit : Nat)
    (primitive : sourceType.kind = .primitive ∨ targetType.kind = .primitive) :
    graph.Decides limit source target := by
  rw [Decides, assignableWithin, if_neg different, typed, typedTarget]
  simp only [bind, Except.bind]
  rw [if_pos (by simpa [TypeDescriptor.isPrimitive, or_comm] using primitive)]
  exact ⟨false, rfl, iff_of_false (by simp)
    (not_accepted_primitive orderly different typed typedTarget primitive)⟩

/-- Between arrays the components decide, for which a smaller limit is left. -/
theorem decides_array {limit : Nat}
    (reference : ¬ (sourceType.kind = .primitive ∨ targetType.kind = .primitive))
    (isArray : targetType.kind = .array) (enough : graph.rank source ≤ limit)
    (deeper : ∀ {less component other element otherElement}, limit = less + 1 →
      graph.type component = .ok element → graph.type other = .ok otherElement →
        graph.rank component ≤ less → graph.Decides less component other) :
    graph.Decides limit source target := by
  rw [Decides, assignableWithin, if_neg different, typed, typedTarget]
  simp only [bind, Except.bind]
  rw [if_neg (by simpa [TypeDescriptor.isPrimitive, or_comm] using reference),
    if_pos (by simpa [TypeDescriptor.isArray] using isArray)]
  rcases Option.isSome_iff_exists.1 ((orderly.component typedTarget).2 isArray) with
    ⟨other, hasTarget⟩
  cases has : sourceType.component with
  | none =>
    refine ⟨false, ?_, iff_of_false (by simp)
      (not_accepted_array different typed typedTarget isArray has)⟩
    cases sourceType.isArray <;> rfl
  | some component =>
    rcases orderly.earlier typed has with ⟨lower, element, typedElement⟩
    rcases orderly.earlier typedTarget hasTarget with ⟨_, otherElement, typedOther⟩
    have sourceArray : sourceType.isArray = true := by
      rw [TypeDescriptor.isArray, decide_eq_true_eq]
      exact orderly.isArray typed has
    have decisive : graph.Accepted source target ↔ graph.Fits component other :=
      ⟨Accepted.fits orderly typed typedTarget has hasTarget,
        Accepted.of_fits typed typedTarget has hasTarget⟩
    rw [decisive, sourceArray, hasTarget]
    dsimp only
    by_cases equal : component = other
    · rw [if_pos equal]
      exact ⟨true, rfl, iff_of_true rfl (Or.inl equal)⟩
    · rw [if_neg equal, typedElement, typedOther, fits_iff typedElement typedOther,
        or_iff_right equal]
      dsimp only
      by_cases base : element.kind = .primitive ∨ otherElement.kind = .primitive
      · rw [if_pos (by simpa [TypeDescriptor.isPrimitive] using base)]
        refine ⟨false, rfl, iff_of_false (by simp) ?_⟩
        rintro ⟨reference, otherReference, _⟩
        exact base.elim reference otherReference
      · rw [if_neg (by simpa [TypeDescriptor.isPrimitive] using base)]
        rw [not_or] at base
        rw [and_iff_right base.1, and_iff_right base.2]
        have fewer := rank_lt (orderly.listed.2 ⟨element, typedElement⟩) lower
        cases limit with
        | zero => exact absurd (Nat.lt_of_lt_of_le fewer enough) (Nat.not_lt_zero _)
        | succ less => exact deeper rfl typedElement typedOther (by omega)

theorem decides_class (limit : Nat)
    (reference : ¬ (sourceType.kind = .primitive ∨ targetType.kind = .primitive))
    (notArray : targetType.kind ≠ .array) : graph.Decides limit source target := by
  rw [Decides, assignableWithin, if_neg different, typed, typedTarget,
    accepted_class_iff orderly different typed typedTarget (not_or.1 reference).1 notArray]
  simp only [bind, Except.bind]
  rw [if_neg (by simpa [TypeDescriptor.isPrimitive, or_comm] using reference),
    if_neg (by simpa [TypeDescriptor.isArray] using notArray)]
  by_cases isRoot : targetType.isRoot target
  · rw [if_pos isRoot]
    exact ⟨true, rfl, iff_of_true rfl (Or.inl isRoot)⟩
  · rw [if_neg isRoot]
    rcases supertypes_spec orderly.closed (orderly.listed.2 ⟨_, typed⟩) with
      ⟨found, walked, complete⟩
    rw [walked]
    refine ⟨_, rfl, ?_⟩
    rw [List.contains_iff_mem, complete, or_iff_right isRoot]

end

/-- Assignability is decided within any limit that is not below the number of
earlier classes, since components are earlier. -/
theorem decides {limit : Nat} {source target : ClassId}
    {sourceType targetType : TypeDescriptor} (typed : graph.type source = .ok sourceType)
    (typedTarget : graph.type target = .ok targetType) (enough : graph.rank source ≤ limit) :
    graph.Decides limit source target := by
  induction limit using Nat.strongRecOn generalizing source target sourceType
    targetType with
  | ind limit inductiveStep =>
    by_cases same : source = target
    · subst same
      rw [Decides, assignableWithin, if_pos rfl]
      exact ⟨true, rfl, iff_of_true rfl (Accepted.same typed)⟩
    · by_cases primitive : sourceType.kind = .primitive ∨ targetType.kind = .primitive
      · exact decides_primitive orderly same typed typedTarget limit primitive
      · by_cases isArray : targetType.kind = .array
        · apply decides_array orderly same typed typedTarget primitive isArray enough
          intro less component other element otherElement next typedElement typedOther below
          apply inductiveStep less _ typedElement typedOther below
          omega
        · exact decides_class orderly same typed typedTarget limit primitive isArray

/-- Assignability always comes to an answer, and the answer is whether the one
class is a subtype of the other. -/
theorem assignable_spec {source target : ClassId} {sourceType targetType : TypeDescriptor}
    (typed : graph.type source = .ok sourceType)
    (typedTarget : graph.type target = .ok targetType) :
    ∃ answer, graph.assignable source target = .ok answer ∧
      (answer = true ↔ graph.Subtype source target) := by
  rcases decides orderly typed typedTarget List.countP_le_length with ⟨answer, decided, correct⟩
  exact ⟨answer, decided, correct.trans (accepted_iff_subtype orderly)⟩

end

end ClassGraph
end ClassRuntime

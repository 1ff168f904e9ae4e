import ClassRuntime.Proofs.Loader.Memory

namespace ClassRuntime
namespace Area

/-!
# Recalling an answer

An answer that an area remembers is the answer that resolution gives.  The
argument goes back from a class to the earlier classes on which it rests, and
from a loader to its parent.  A request may carry marks.  They are harmless if
no marked name is answered with the class or with an earlier one, and this
stays so on the way back.
-/

variable {ι : Type} {base area : Area ι}

namespace Memory

/-- A class of the bootstrap loader that goes by a keyword is primitive. -/
theorem primitive_of_keyword (memory : base.Memory area) (fine : area.WellFormed) {id : ClassId}
    {type : TypeDescriptor} (typed : area.type? id = some type) (home : id.loader = .bootstrap)
    (keyword : type.name.isPrimitive) : type.kind = .primitive := by
  rcases ClassName.isPrimitive_iff.1 keyword with ⟨primitive, named⟩
  rcases memory.primitives primitive with ⟨other, homeOther, typedOther⟩
  have same := fine.unique typed typedOther (home.trans homeOther.symm) named
  rw [same, typedOther] at typed
  cases typed
  rfl

/-- The bootstrap loader answers a keyword. -/
theorem lookup?_ne_none (memory : base.Memory area) (fine : area.WellFormed) {name : ClassName}
    (keyword : name.isPrimitive) : area.lookup? .bootstrap name ≠ none := by
  rcases ClassName.isPrimitive_iff.1 keyword with ⟨primitive, rfl⟩
  rcases memory.primitives primitive with ⟨id, home, typed⟩
  have recorded := fine.recorded typed
  rw [home] at recorded
  intro unanswered
  cases unanswered.symm.trans recorded

theorem kindOf_eq (memory : base.Memory area) (fine : area.WellFormed) {id : ClassId}
    {type : TypeDescriptor} (typed : area.type? id = some type) :
    base.kindOf id.loader type.name = type.kind := by
  rw [kindOf]
  cases fine.linked typed with
  | primitive primitive home =>
    have keyword : (Loader.primitiveType primitive).name.isPrimitive :=
      ClassName.isPrimitive_keyword primitive
    rw [if_neg (ClassName.not_isArray_of_isPrimitive keyword), if_pos ⟨home, keyword⟩]
    rfl
  | array named => exact if_pos (ClassName.isArray_of_component? named)
  | declared notArray kind =>
    have reference : type.kind ≠ .primitive := by
      rcases kind with ordinary | ⟨isInterface, _⟩
      · rw [ordinary]
        simp
      · rw [isInterface]
        simp
    rcases memory.made typed notArray reference with ⟨definition, built⟩
    rw [if_neg notArray, if_neg, built.defined, built.kind]
    · rfl
    · rintro ⟨home, keyword⟩
      exact reference (memory.primitive_of_keyword fine typed home keyword)

end Memory

/-! ## Meeting demands -/

/-- Demands are met if each of them is resolved and of the right kind. -/
theorem Resolves.meets {marks : List ClassName} {id home : LoaderId} {owner : ClassName}
    {demands : List Demand}
    (each : ∀ demand ∈ demands, ∃ defining,
      base.Resolves (.load marks id demand.name) (.ok defining) ∧
        ∀ kind ∈ demand.kind, base.kindOf defining demand.name = kind) :
    base.Resolves (.meet marks id owner home demands) (.ok home) := by
  induction demands with
  | nil => exact Resolves.met
  | cons first rest inductiveStep =>
    rcases each first List.mem_cons_self with ⟨defining, found, fits⟩
    exact Resolves.next found fits
      (inductiveStep fun demand member => each demand (List.mem_cons_of_mem _ member))

private theorem exists_of_forall₂ {α β : Type} {relation : α → β → Prop} {first : List α}
    {second : List β} (related : List.Forall₂ relation first second) {member : α}
    (listed : member ∈ first) : ∃ other ∈ second, relation member other := by
  induction related with
  | nil => cases listed
  | cons head _ inductiveStep =>
    rcases List.mem_cons.1 listed with rfl | later
    · exact ⟨_, List.mem_cons_self, head⟩
    · rcases inductiveStep later with ⟨other, member, holds⟩
      exact ⟨other, List.mem_cons_of_mem _ member, holds⟩

/-- Every demand of a definition from which a class was built is answered with
an earlier class of the right kind. -/
theorem Built.demands {id : ClassId} {type : TypeDescriptor} {definition : ClassDefinition ι}
    (built : base.Built area id type definition) (linked : area.Linked id type)
    (notArray : ¬ type.name.isArray) {demand : Demand} (member : demand ∈ definition.demands) :
    ∃ other, area.lookup? id.loader demand.name = some other ∧ other < id ∧
      ∃ inherited, area.type? other = some inherited ∧
        ∀ kind ∈ demand.kind, inherited.kind = kind := by
  have superclass := built.superclass
  have interfaces := built.interfaces
  rcases List.mem_append.1 member with extended | implemented
  · rcases List.mem_map.1 extended with ⟨name, inherits, rfl⟩
    rw [Option.mem_toList] at inherits
    rw [Option.mem_def.1 inherits] at superclass
    cases linked with
    | primitive => cases superclass
    | array named => exact absurd (ClassName.isArray_of_component? named) notArray
    | declared _ _ _ earlier =>
      generalize equal : type.superclass = inherited at superclass
      cases superclass with
      | some answered =>
        rcases earlier _ equal with ⟨lower, inherited, typed, kinded⟩
        refine ⟨_, answered, lower, inherited, typed, ?_⟩
        rintro _ ⟨⟩
        exact kinded
  · rcases List.mem_map.1 implemented with ⟨name, implements, rfl⟩
    rcases exists_of_forall₂ interfaces implements with ⟨other, listed, answered⟩
    cases linked with
    | primitive => cases listed
    | array named => exact absurd (ClassName.isArray_of_component? named) notArray
    | declared _ _ _ _ earlier =>
      rcases earlier other listed with ⟨lower, inherited, typed, kinded⟩
      refine ⟨other, answered, lower, inherited, typed, ?_⟩
      rintro _ ⟨⟩
      exact kinded

theorem WellFormed.primitive_home (fine : area.WellFormed) {id : ClassId} {type : TypeDescriptor}
    (typed : area.type? id = some type) (primitive : type.kind = .primitive) :
    id.loader = .bootstrap ∧ type.name.isPrimitive := by
  cases fine.linked typed with
  | primitive type home => exact ⟨home, ClassName.isPrimitive_keyword type⟩
  | array => cases primitive
  | declared _ kind =>
    rcases kind with other | ⟨other, _⟩ <;> rw [primitive] at other <;> cases other

/-- The names of the classes on which an array rests are answered with earlier
classes. -/
theorem WellFormed.basics (fine : area.WellFormed) {id : ClassId} {type : TypeDescriptor}
    (typed : area.type? id = some type) (array : type.name.isArray) {demand : Demand}
    (member : demand ∈ Demand.basics) :
    ∃ other, area.lookup? .bootstrap demand.name = some other ∧ other < id := by
  have known {other : ClassId} {name : ClassName} (boot : area.IsBoot other name) :
      area.lookup? .bootstrap name = some other := by
    rcases boot with ⟨home, type, typed, rfl⟩
    rw [← home]
    exact fine.recorded typed
  cases fine.linked typed with
  | primitive primitive =>
    exact absurd array
      (ClassName.not_isArray_of_isPrimitive (ClassName.isPrimitive_keyword primitive))
  | array _ _ _ earlier isRoot isCloneable isSerializable =>
    simp only [Demand.basics, List.mem_cons, List.not_mem_nil, or_false] at member
    rcases member with rfl | rfl | rfl
    · exact ⟨_, known isRoot, earlier _ (by simp)⟩
    · exact ⟨_, known isCloneable, earlier _ (by simp)⟩
    · exact ⟨_, known isSerializable, earlier _ (by simp)⟩
  | declared notArray => exact absurd array notArray

/-- The component of an array is answered with an earlier class. -/
theorem WellFormed.component_earlier (fine : area.WellFormed) {id component : ClassId}
    {type element : TypeDescriptor} {name : ClassName} (typed : area.type? id = some type)
    (shape : type.name.component? = some name)
    (typedComponent : area.type? component = some element) (named : element.name = name)
    (home : id.loader = component.loader) : component < id := by
  cases fine.linked typed with
  | primitive primitive =>
    exact absurd (ClassName.isArray_of_component? shape)
      (ClassName.not_isArray_of_isPrimitive (ClassName.isPrimitive_keyword primitive))
  | @array _ other _ _ _ _ shapeAgain homeAgain behind earlier =>
    have same : element.name = _ := named.trans (Option.some.inj (shape.symm.trans shapeAgain))
    have equal := fine.unique typedComponent behind (home.symm.trans homeAgain.symm) same
    rw [equal]
    exact earlier other List.mem_cons_self
  | declared notArray => exact absurd (ClassName.isArray_of_component? shape) notArray

/-! ## Going back -/

/-- The marks do not stand in the way of a class: no marked name is answered
with it or with an earlier one. -/
def Harmless (area : Area ι) (id : LoaderId) (marks : List ClassName) (found : ClassId) : Prop :=
  ∀ mark ∈ marks, ∀ other, area.lookup? id mark = some other → found < other

namespace Harmless

variable {id : LoaderId} {marks : List ClassName} {found other : ClassId}

theorem nil : area.Harmless id [] found := by simp [Harmless]

theorem earlier (harmless : area.Harmless id marks found) (lower : other < found) :
    area.Harmless id marks other :=
  fun mark member later answered => ClassId.lt_trans lower (harmless mark member later answered)

theorem cons {name : ClassName} (harmless : area.Harmless id marks found)
    (answered : area.lookup? id name = some found) (lower : other < found) :
    area.Harmless id (name :: marks) other := by
  intro mark member later answeredLater
  rcases List.mem_cons.1 member with rfl | before
  · rw [answered] at answeredLater
    cases answeredLater
    exact lower
  · exact harmless.earlier lower mark before later answeredLater

end Harmless

/-- Answers with classes before a bound are recalled. -/
def RecalledBelow (base area : Area ι) (bound : ClassId) : Prop :=
  ∀ {id : LoaderId} {name : ClassName} {found : ClassId} {marks : List ClassName},
    found < bound → area.lookup? id name = some found → area.Harmless id marks found →
      base.Resolves (.load marks id name) (.ok found.loader)

section

variable (memory : base.Memory area) (fine : area.WellFormed) {id : LoaderId} {found : ClassId}
  {type : TypeDescriptor} {marks : List ClassName} (typed : area.type? found = some type)
  (deeper : base.RecalledBelow area found)

include memory fine typed deeper

theorem Memory.recall_array (array : type.name.isArray)
    (answered : area.lookup? id type.name = some found)
    (harmless : area.Harmless id marks found) :
    base.Resolves (.load marks id type.name) (.ok found.loader) := by
  rcases (memory.answers answered).array array with
    ⟨componentName, component, shape, componentAnswered, home⟩
  rcases fine.answered componentAnswered with ⟨_, element, typedComponent, named⟩
  have lower := fine.component_earlier typed shape typedComponent named home
  have componentFound := deeper lower componentAnswered (harmless.earlier lower)
  rw [home]
  refine Resolves.array array shape componentFound (Resolves.meets fun demand member => ?_)
  rcases fine.basics typed array member with ⟨other, basic, lowerBasic⟩
  refine ⟨other.loader, deeper lowerBasic basic ?_, ?_⟩
  · split
    next boot =>
      rw [← boot]
      exact harmless.earlier lowerBasic
    next => exact Harmless.nil
  · intro kind demanded
    simp only [Demand.basics, List.mem_cons, List.not_mem_nil, or_false] at member
    rcases member with rfl | rfl | rfl <;> cases demanded

/-- The defining loader links the class anew. -/
theorem Memory.recall_definition {definition : ClassDefinition ι} (ordinary : ¬ type.name.isArray)
    (built : base.Built area found type definition)
    (harmless : area.Harmless found.loader marks found) :
    base.Resolves (.define marks found.loader type.name) (.ok found.loader) := by
  have answered := fine.recorded typed
  refine Resolves.linked built.defined (fun marked => ?_) (Resolves.meets ?_)
  · exact ClassId.lt_irrefl _ (harmless _ marked _ answered)
  · intro demand member
    rcases built.demands (fine.linked typed) ordinary member with
      ⟨other, otherAnswered, lower, inherited, typedOther, fits⟩
    refine ⟨other.loader, deeper lower otherAnswered (harmless.cons answered lower), ?_⟩
    intro kind demanded
    rcases fine.answered otherAnswered with ⟨_, same, typedSame, named⟩
    rw [typedOther] at typedSame
    cases typedSame
    rw [← named, memory.kindOf_eq fine typedOther]
    exact fits kind demanded

theorem Memory.recall_own (ordinary : ¬ type.name.isArray)
    (harmless : area.Harmless found.loader marks found) :
    base.Resolves (.load marks found.loader type.name) (.ok found.loader) := by
  by_cases primitive : type.kind = .primitive
  · rcases fine.primitive_home typed primitive with ⟨home, keyword⟩
    rw [home]
    exact Resolves.primitive keyword
  · rcases memory.made typed ordinary primitive with ⟨definition, built⟩
    have defines := memory.recall_definition fine typed deeper ordinary built harmless
    cases below : base.parent? found.loader with
    | none =>
      refine Resolves.top ordinary ?_ below defines
      rintro ⟨home, keyword⟩
      exact primitive (memory.primitive_of_keyword fine typed home keyword)
    | some parent =>
      rcases built.missing parent below with ⟨missing, notFound⟩
      exact Resolves.parentFirst ordinary below notFound (Resolves.shadowed defines)

end

/-- A remembered answer is the one that resolution gives. -/
theorem Memory.recall (memory : base.Memory area) (fine : area.WellFormed) {id : LoaderId}
    {name : ClassName} {found : ClassId} {marks : List ClassName}
    (answered : area.lookup? id name = some found) (harmless : area.Harmless id marks found) :
    base.Resolves (.load marks id name) (.ok found.loader) := by
  rcases fine.answered answered with ⟨asked, type, typed, rfl⟩
  have deeper : base.RecalledBelow area found :=
    fun lower answeredThere harmlessThere => memory.recall fine answeredThere harmlessThere
  by_cases array : type.name.isArray
  · exact memory.recall_array fine typed deeper array answered harmless
  · by_cases here : found.loader = id
    · subst here
      exact memory.recall_own fine typed deeper array harmless
    · rcases (memory.answers answered).delegated array here with ⟨parent, below, parentAnswered⟩
      have lower := fine.descending ((memory.plan.parent id).trans below)
      have asked : base.Resolves (.load [] parent type.name) (.ok found.loader) :=
        memory.recall fine parentAnswered Harmless.nil
      exact Resolves.parentFirst array below asked Resolves.inherited
termination_by (found, id.index)
decreasing_by
  · exact Prod.Lex.left _ _ lower
  · exact Prod.Lex.right _ lower

end Area
end ClassRuntime

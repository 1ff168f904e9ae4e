import ClassRuntime.Proofs.Loader.DescriptorGraph
import ClassRuntime.Proofs.Loader.Retention

namespace ClassRuntime
namespace Area

/-!
# How loads assemble an area

However loads nest and whether or not they succeed, all that they do comes down to
small changes of five kinds.  A definition is marked, the mark is taken off again, an
answer is passed on to another loader, a class is made of a marked definition, and an
array is made of its component and three classes of the bootstrap loader.  What each
of these changes can rely on is written down here, and the ways a load can go are
followed once.  What an area has at the start and does not lose by a change, it has
after every load.

Nothing is assumed about the area in which a load begins.
-/

variable {ι : Type} {area before middle after : Area ι}

/-- What linking makes of a definition.  Whatever the type refers to is there. -/
structure Declares (area : Area ι) (definition : ClassDefinition ι) (type : TypeDescriptor) :
    Prop where
  name : type.name = definition.name
  kind : type.kind = definition.kind
  component : type.component = none
  closed : ∀ other ∈ type.references, (area.class? other).isSome

/-- A small change in the course of a load. -/
inductive Change (before : Area ι) : Area ι → Prop
  /-- A name that has no answer is marked. -/
  | mark (id : LoaderId) {name : ClassName} (unanswered : before.lookup? id name = none) :
      Change before (before.updateLoader id fun loader => loader.mark name)
  | unmark (id : LoaderId) (name : ClassName) :
      Change before (before.updateLoader id fun loader => loader.unmark name)
  /-- A loader gives an answer of its own again, or the answer of another loader if it
  has a parent or the name is that of an array. -/
  | answer (id : LoaderId) {name : ClassName} {home : LoaderId} {found : ClassId}
      (answered : before.lookup? home name = some found)
      (passed : home = id ∨ (before.parent? id).isSome ∨ name.isArray) :
      Change before (before.updateLoader id fun loader => loader.answer name found)
  /-- The only mark on a definition is taken off, and its class gets a place. -/
  | declare {id : LoaderId} {loader : Loader ι} {name : ClassName}
      {definition : ClassDefinition ι} {type : TypeDescriptor}
      (marked : name ∈ before.linking id) (once : name ∉ (before.linking id).erase name)
      (known : (before.updateLoader id fun loader => loader.unmark name).loader? id = some loader)
      (defined : before.definition? id name = some definition)
      (declares : before.Declares definition type) :
      Change before (placed (before.updateLoader id fun loader => loader.unmark name) id loader
        name (.fresh type definition.initializer))
  /-- An array gets a place at the loader of its component. -/
  | array {name : ClassName} {component : ClassId} {loader : Loader ι} {element : TypeDescriptor}
      {root cloneable serializable : ClassId} (named : name.isArray)
      (known : before.loader? component.loader = some loader)
      (behind : before.type? component = some element)
      (isRoot : before.lookup? .bootstrap .object = some root)
      (isCloneable : before.lookup? .bootstrap .cloneable = some cloneable)
      (isSerializable : before.lookup? .bootstrap .serializable = some serializable) :
      Change before (placed before component.loader loader name
        (.fresh (arrayType name component element root [cloneable, serializable]) none))

/-- Any number of changes. -/
def Assembles : Area ι → Area ι → Prop :=
  Relation.ReflTransGen Change

/-- What no change takes away is not taken away at all. -/
theorem Assembles.keeps {property : Area ι → Prop} (assembles : before.Assembles after)
    (change : ∀ {before after : Area ι}, before.Change after → property before → property after)
    (holds : property before) : property after := by
  induction assembles with
  | refl => exact holds
  | tail _ last inductiveStep => exact change last inductiveStep

/-- What a load does: it makes changes, and in the end the frames of the loaders are as
before. -/
structure Builds (before after : Area ι) : Prop where
  frame : before.SameFrame after
  assembles : before.Assembles after

instance : IsPreorder (Area ι) Builds where
  refl _ := ⟨fun _ => rfl, .refl⟩
  trans _ _ _ first second :=
    ⟨first.frame.trans second.frame, first.assembles.trans second.assembles⟩

/-- What has been found is passed on. -/
theorem Builds.settle {id : LoaderId} {name : ClassName} {outcome : Except Fault ClassId × Area ι}
    (builds : before.Builds outcome.2)
    (passes : ∀ found, outcome.1 = .ok found → ∃ home, outcome.2.lookup? home name = some found ∧
      (home = id ∨ (before.parent? id).isSome ∨ name.isArray)) :
    before.Builds (settle id name outcome).2 := by
  rcases outcome with ⟨cause | found, after⟩
  · exact builds
  · rcases passes found rfl with ⟨home, answered, passed⟩
    rw [← builds.frame.parent? id] at passed
    exact ⟨builds.frame.trans (sameFrame_answer after id name found),
      builds.assembles.tail (.answer id answered passed)⟩

/-- For the second part it matters what the first has come to. -/
theorem Builds.bind {α β : Type} {action : Action (Area ι) α} {next : α → Action (Area ι) β}
    (first : action.Within Builds) (rest : ∀ value middle,
      action.outcome area = (.ok value, middle) → middle.Builds ((next value).outcome middle).2) :
    area.Builds ((action >>= next).outcome area).2 := by
  have begun := first area
  rw [Action.outcome_bind]
  rcases ended : action.outcome area with ⟨cause | value, middle⟩
  all_goals rw [ended] at begun
  · exact begun
  · exact trans_of Builds begun (rest value middle ended)

/-! ## Linking -/

theorem linking_builds : Linking fun α (action : Action (Area ι) α) => action.Within Builds where
  toCompositional := Action.compositional_within Builds
  getClass id area := by
    rw [outcome_getClass]
    exact refl_of Builds area
  incompatible _ _ := .fail _

theorem Retains.isSome (retains : before.Retains after) {id : ClassId}
    (known : (before.class? id).isSome) : (after.class? id).isSome := by
  rcases Option.isSome_iff_exists.1 known with ⟨loaded, found⟩
  rcases retains.exists_class found with ⟨later, foundLater, _⟩
  exact Option.isSome_iff_exists.2 ⟨later, foundLater⟩

section Link

variable {load : ClassName → Action (Area ι) ClassId} {definition : ClassDefinition ι}

/-- Linking looks at each class that a definition names, so that it exists. -/
theorem known_of_linkSuperclass {superclass : Option ClassId}
    (ended : (linkSuperclass load definition).outcome area = (.ok superclass, after)) :
    ∀ other ∈ superclass, (after.class? other).isSome := by
  unfold linkSuperclass at ended
  split at ended
  · cases ended
    intro other impossible
    cases impossible
  · rcases Action.bind_ok ended with ⟨id, middle, _, looks⟩
    rcases Action.bind_ok looks with ⟨inherited, later, read, last⟩
    rw [outcome_getClass, Prod.mk.injEq] at read
    rcases read with ⟨read, rfl⟩
    split at last
    · cases last
      rintro other ⟨⟩
      exact Option.isSome_iff_exists.2 ⟨inherited, class?_of_loadedClass read⟩
    · cases last

theorem known_of_linkInterfaces (retains : ∀ name, (load name).Within Retains)
    {names : List ClassName} {interfaces : List ClassId}
    (ended : (linkInterfaces load definition names).outcome area = (.ok interfaces, after)) :
    ∀ other ∈ interfaces, (after.class? other).isSome := by
  induction names generalizing area interfaces with
  | nil =>
    cases ended
    intro other impossible
    cases impossible
  | cons name rest inductiveStep =>
    rcases Action.bind_ok ended with ⟨id, middle, _, looks⟩
    rcases Action.bind_ok looks with ⟨inherited, later, read, goesOn⟩
    rw [outcome_getClass, Prod.mk.injEq] at read
    rcases read with ⟨read, rfl⟩
    split at goesOn
    · rcases Action.bind_ok goesOn with ⟨others, final, linked, last⟩
      cases last
      have kept := (linking_retains.linkInterfaces retains rest).related linked
      intro other member
      rcases List.mem_cons.1 member with rfl | further
      · exact kept.isSome (Option.isSome_iff_exists.2 ⟨inherited, class?_of_loadedClass read⟩)
      · exact inductiveStep linked other further
    · cases goesOn

theorem declares_of_link (retains : ∀ name, (load name).Within Retains) {source : Source}
    {type : TypeDescriptor}
    (ended : (link load source definition).outcome area = (.ok type, after)) :
    after.Declares definition type := by
  rcases Action.bind_ok ended with ⟨superclass, middle, extended, rest⟩
  rcases Action.bind_ok rest with ⟨interfaces, last, implemented, made⟩
  cases made
  have kept := (linking_retains.linkInterfaces retains definition.interfaces).related implemented
  refine ⟨rfl, rfl, rfl, fun other member => ?_⟩
  simp only [TypeDescriptor.references, TypeDescriptor.supertypes, Option.toList_none,
    List.append_nil, List.mem_append, Option.mem_toList] at member
  rcases member with inherited | declared
  · exact kept.isSome (known_of_linkSuperclass extended other inherited)
  · exact known_of_linkInterfaces retains implemented other declared

end Link

/-! ## Loading -/

section Nested

variable {nested : Load ι} (retains : ∀ id name, (nested id name).Within Retains)
  (builds : ∀ id name, (nested id name).Within Builds)

include retains builds

theorem builds_define (id : LoaderId) (name : ClassName) :
    (define nested id name).Within Builds := by
  intro area
  cases known : area.loader? id with
  | none =>
    simp only [define, Action.outcome_bind, outcome_getLoader, loader_eq_error known]
    exact refl_of Builds area
  | some loader =>
    cases answered : area.lookup? id name with
    | some found =>
      rw [outcome_define_known known answered]
      exact refl_of Builds area
    | none =>
      cases defined : area.definition? id name with
      | none =>
        rw [outcome_define_undefined known answered defined]
        exact refl_of Builds area
      | some definition =>
        by_cases unmarked : name ∈ area.linking id
        · rw [outcome_define_circular known answered defined unmarked]
          exact refl_of Builds area
        · have begun : area.Change (area.updateLoader id fun loader => loader.mark name) :=
            .mark id answered
          have linked := linking_builds.link (builds id) loader.source definition
            (area.updateLoader id fun loader => loader.mark name)
          rcases ended : (link (nested id) loader.source definition).outcome
            (area.updateLoader id fun loader => loader.mark name) with ⟨cause | type, middle⟩
          all_goals
            rw [ended] at linked
            have marks : middle.linking id = name :: area.linking id :=
              (linked.frame.linking id).trans (linking_mark known name)
            have frame := linked.frame.unmark
            have before := linked.assembles.head begun
          · rw [outcome_define_unlinked known answered defined unmarked ended]
            exact ⟨frame, before.tail (.unmark id name)⟩
          · have there := (frame.isSome id).trans (Option.isSome_iff_exists.2 ⟨loader, known⟩)
            rcases Option.isSome_iff_exists.1 there with ⟨later, present⟩
            rw [outcome_define_linked known answered defined unmarked ended present]
            refine ⟨frame.trans sameFrame_placed, before.tail (.declare ?_ ?_ present ?_
              (declares_of_link (retains id) ended))⟩
            · rw [marks]
              exact List.mem_cons_self
            · rw [marks, List.erase_cons_head]
              exact unmarked
            · rw [linked.frame.definition?, definition?,
                bind_updateLoader (fun loader => loader.mark name) fun _ => rfl]
              exact defined

theorem builds_orDefine (id : LoaderId) (name : ClassName) (answer : Except Fault ClassId) :
    (orDefine nested id name answer).Within Builds := by
  unfold orDefine
  split
  · exact .pure _
  · exact builds_define retains builds id name
  · exact .throw _

omit builds in
theorem answered_of_orDefine {id : LoaderId} {name : ClassName} {answer : Except Fault ClassId}
    {found : ClassId}
    (asked : ∀ other, answer = .ok other → ∃ home, area.lookup? home name = some other)
    (ended : (orDefine nested id name answer).outcome area = (.ok found, after)) :
    ∃ home, after.lookup? home name = some found := by
  unfold orDefine at ended
  split at ended
  · cases ended
    exact asked found rfl
  · exact ⟨id, lookup?_of_define retains ended⟩
  · cases ended

theorem builds_delegate (bound : Nat) (id : LoaderId) (name : ClassName) :
    (delegate nested bound id name).Within Builds := by
  induction bound generalizing id with
  | zero => exact .throw _
  | succ bound inductiveStep =>
    intro area
    cases known : area.loader? id with
    | none =>
      simp only [delegate, Action.outcome_bind, outcome_getLoader, loader_eq_error known]
      exact refl_of Builds area
    | some loader =>
      cases answered : area.lookup? id name with
      | some found =>
        rw [outcome_delegate_known known answered]
        exact refl_of Builds area
      | none =>
        cases below : area.parent? id with
        | none =>
          rw [outcome_delegate_top known answered below]
          refine (builds_define retains builds id name area).settle fun found ended => ?_
          exact ⟨id, lookup?_of_define retains (Prod.ext ended rfl), Or.inl rfl⟩
        | some parent =>
          rw [outcome_delegate_parent known answered below]
          refine (trans_of Builds (inductiveStep parent area)
            (builds_orDefine retains builds id name _ _)).settle fun found ended => ?_
          rcases answered_of_orDefine retains (fun other asked =>
            ⟨parent, lookup?_of_delegate retains (Prod.ext asked rfl)⟩) (Prod.ext ended rfl) with
            ⟨home, passed⟩
          exact ⟨home, passed, Or.inr (Or.inl (by rw [below]; rfl))⟩

theorem builds_loadOrdinary (id : LoaderId) (name : ClassName) :
    (loadOrdinary nested id name).Within Builds :=
  .bind .get fun _ => builds_delegate retains builds _ id name

omit retains builds in
theorem builds_keepArray {name : ClassName} {component : ClassId} {element : TypeDescriptor}
    {root cloneable serializable : ClassId} (named : name.isArray)
    (behind : area.type? component = some element)
    (isRoot : area.lookup? .bootstrap .object = some root)
    (isCloneable : area.lookup? .bootstrap .cloneable = some cloneable)
    (isSerializable : area.lookup? .bootstrap .serializable = some serializable) :
    area.Builds ((keepArray name component
      (arrayType name component element root [cloneable, serializable])).outcome area).2 := by
  cases known : area.loader? component.loader with
  | none =>
    simp only [keepArray, Action.outcome_bind, outcome_getLoader, loader_eq_error known]
    exact refl_of Builds area
  | some loader =>
    cases answered : area.lookup? component.loader name with
    | some found =>
      rw [outcome_keepArray_known known answered]
      exact refl_of Builds area
    | none =>
      rw [outcome_keepArray_new known answered]
      exact ⟨sameFrame_placed, .single
        (.array named known behind isRoot isCloneable isSerializable)⟩

/-- The classes on which an array rests are found one after another, and stay. -/
theorem builds_obtainArray {name : ClassName} (named : name.isArray) (component : ClassId) :
    (obtainArray nested name component).Within Builds := by
  intro area
  have boot := builds_loadOrdinary retains builds .bootstrap
  have stays := retains_loadOrdinary retains .bootstrap
  rw [obtainArray_eq]
  refine .bind (linking_builds.getClass component) fun element first read =>
    .bind (boot .object) fun root second toSecond =>
    .bind (boot .cloneable) fun cloneable third toThird =>
    .bind (boot .serializable) fun serializable last toLast => ?_
  rw [outcome_getClass, Prod.mk.injEq] at read
  have behind := type?_of_class? (class?_of_loadedClass read.1)
  rw [read.2] at behind
  have keepSecond := (stays .object).related toSecond
  have keepThird := (stays .cloneable).related toThird
  have keepLast := (stays .serializable).related toLast
  refine builds_keepArray named (keepLast.type (keepThird.type (keepSecond.type behind))) ?_ ?_ ?_
  · exact keepLast.answer (keepThird.answer (lookup?_of_loadOrdinary retains toSecond))
  · exact keepLast.answer (lookup?_of_loadOrdinary retains toThird)
  · exact lookup?_of_loadOrdinary retains toLast

theorem builds_loadWith (id : LoaderId) (name : ClassName) :
    (loadWith nested id name).Within Builds := by
  intro area
  by_cases array : name.isArray
  · cases known : area.loader? id with
    | none =>
      rw [loadWith, if_pos array, Action.outcome_bind, outcome_getLoader, loader_eq_error known]
      exact refl_of Builds area
    | some loader =>
      cases answered : area.lookup? id name with
      | some found =>
        rw [outcome_loadWith_known array known answered]
        exact refl_of Builds area
      | none =>
        cases shape : name.component? with
        | none =>
          rw [outcome_loadWith_malformed array known answered shape]
          exact refl_of Builds area
        | some componentName =>
          rw [outcome_loadWith_array array known answered shape]
          have made := (builds_loadWith id componentName).bind fun component =>
            builds_obtainArray retains builds array component
          refine (made area).settle fun found ended => ?_
          rcases Action.bind_ok (Prod.ext ended rfl) with ⟨component, middle, _, obtained⟩
          exact ⟨component.loader, lookup?_of_obtainArray obtained, Or.inr (Or.inr array)⟩
  · rw [outcome_loadWith_ordinary array]
    exact builds_loadOrdinary retains builds id name area
termination_by name.nesting
decreasing_by exact ClassName.nesting_component? (by assumption)

end Nested

theorem builds_loadNested (depth : Nat) (id : LoaderId) (name : ClassName) :
    (loadNested depth id name : Action (Area ι) ClassId).Within Builds := by
  induction depth generalizing id name with
  | zero => exact .throw _
  | succ depth inductiveStep =>
    exact builds_loadWith (retains_loadNested depth) inductiveStep id name

theorem builds_load (id : LoaderId) (name : ClassName) :
    (load id name : Action (Area ι) ClassId).Within Builds := by
  unfold load
  exact .bind .get fun area => builds_loadNested _ id name

end Area
end ClassRuntime

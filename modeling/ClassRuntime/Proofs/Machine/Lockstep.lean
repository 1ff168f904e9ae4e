import ClassRuntime.Proofs.Lockstep
import ClassRuntime.Proofs.Loader.Independence
import ClassRuntime.Proofs.Machine.Mirrors
import ClassRuntime.Proofs.Machine.Safety

namespace ClassRuntime

/-!
# Machines with different pasts

Two machines that have started alike may have loaded different classes since then,
each in its own order, so that one class is found in different places.  They may also
have made different mirrors.  What they are asked about a class they answer alike all
the same, as far as an answer says anything without its machine: the mirrors in it
stand for classes of the same names, and texts and numbers are equal.

A request that makes a mirror in one machine may find it in the other, and then it
has the class of mirrors to load in the first machine only.  This has to succeed, so
it is required that the class can be loaded in the beginning.
-/

namespace Area

variable {ι : Type} {base area first second before after twinAfter : Area ι} {id other : ClassId}

/-- The area has come about from the base by loading and by making mirrors. -/
structure Evolved (base area : Area ι) : Prop where
  grown : base.Grown area
  mirrored : area.Mirrored

/-- What has been loaded stays, and nothing but loading and making mirrors has been
done. -/
structure Evolves (base before after : Area ι) : Prop where
  retains : before.Retains after
  evolved : base.Evolved before → base.Evolved after

instance : IsPreorder (Area ι) (Evolves base) where
  refl area := ⟨.refl area, fun evolved => evolved⟩
  trans _ _ _ first second :=
    ⟨first.retains.trans second.retains, fun evolved => second.evolved (first.evolved evolved)⟩

/-- The class of mirrors can be loaded. -/
def Reflective (base : Area ι) : Prop :=
  ∃ type, ((load .bootstrap .mirror).outcome base).1 = .ok type

theorem evolves_load (base : Area ι) (id : LoaderId) (name : ClassName) :
    (load id name).Within (Evolves base) :=
  fun area => ⟨retains_load id name area, fun evolved =>
    ⟨evolved.grown.load id name, loading_mirrored.load id name area evolved.mirrored⟩⟩

theorem evolves_keepMirror (base area : Area ι) (mirror : Object)
    (own : mirror.mirrored? = some id) : base.Evolves area
      (area.updateClass id fun loaded => { loaded with mirror := some mirror }) where
  retains := retains_updateClass area id fun _ => rfl
  evolved evolved := ⟨evolved.grown.updateClass id fun _ => rfl,
    mirrored_keepMirror area own evolved.mirrored⟩

/-! ## Classes of the same name -/

theorem SameName.later (same : first.SameName second id other) (retains : first.Retains after)
    (twinRetains : second.Retains twinAfter) : after.SameName twinAfter id other := by
  rcases same with ⟨home, type, otherType, typed, otherTyped, named⟩
  exact ⟨home, type, otherType, retains.type typed, twinRetains.type otherTyped, named⟩

theorem Alike.declaringName? {type otherType : TypeDescriptor}
    (alike : first.Alike second type otherType) :
    type.declaringName? = otherType.declaringName? := by
  rw [TypeDescriptor.declaringName?, TypeDescriptor.declaringName?, alike.kind, alike.name]

theorem Alike.binaryName {type otherType : TypeDescriptor}
    (alike : first.Alike second type otherType) : type.binaryName = otherType.binaryName :=
  congrArg ClassName.binary alike.name

section

variable (unused : base.Unused) (grown : base.Grown first) (twinGrown : base.Grown second)

include unused

/-- An area resolves requests like itself. -/
theorem Unused.matching : Matching (fun _ => True) base base where
  rooted := trivial
  top := unused.bare.memory.top unused.reachable.wellFormed
  parents _ := rfl
  closed _ _ := trivial
  definitions _ _ := rfl

include grown twinGrown

theorem Unused.alike (same : first.SameName second id other) :
    ∃ loaded found, first.class? id = some loaded ∧ second.class? other = some found ∧
      first.Alike second loaded.toTypeDescriptor found.toTypeDescriptor := by
  rcases same with ⟨home, type, otherType, typed, otherTyped, named⟩
  have like := Area.alike unused.matching (fun _ => rfl) grown twinGrown trivial home typed
    otherTyped named
  rcases class?_of_type? typed with ⟨loaded, place, rfl⟩
  rcases class?_of_type? otherTyped with ⟨found, otherPlace, rfl⟩
  exact ⟨loaded, found, place, otherPlace, like⟩

theorem Unused.lockstep_load {home : LoaderId} (known : (base.loader? home).isSome)
    (name : ClassName) :
    Action.Lockstep (Evolves base) first second (load home name) (load home name)
      fun after twinAfter => after.SameName twinAfter := by
  have present : (first.loader? home).isSome := by rwa [grown.frame.isSome]
  have twinPresent : (second.loader? home).isSome := by rwa [twinGrown.frame.isSome]
  have same := sameOutcome_load unused.matching (fun _ => rfl) grown twinGrown trivial present
    twinPresent name
  refine ⟨evolves_load base home name first, evolves_load base home name second, ?_⟩
  generalize (load home name).outcome first = outcome at same ⊢
  generalize (load home name).outcome second = twinOutcome at same ⊢
  cases same with
  | found home typed otherTyped alike =>
    exact .returned ⟨home, _, _, typed, otherTyped, alike.name⟩
  | failed cause => exact .abandoned cause _ _

/-- A keyword is answered at once, and any other name is loaded. -/
theorem Unused.lockstep_resolve (name : String) :
    Action.Lockstep (Evolves base) first second (resolve .bootstrap name) (resolve .bootstrap name)
      fun after twinAfter => after.SameName twinAfter := by
  by_cases keyword : ClassName.isPrimitive name
  · have answers {area : Area ι} (grown : base.Grown area) : ∃ found,
        area.lookup? .bootstrap name = some found ∧
          (resolve .bootstrap name).outcome area = (.ok found, area) := by
      rcases Option.ne_none_iff_exists'.1 (grown.memory.lookup?_ne_none grown.fine keyword) with
        ⟨found, answered⟩
      have primitive : area.primitiveClass? name = some found := (if_pos keyword).trans answered
      refine ⟨found, answered, ?_⟩
      rw [resolve, Action.outcome_bind, Action.outcome_get]
      simp only [primitive, Action.outcome_pure]
    rcases answers grown with ⟨found, answered, ended⟩
    rcases answers twinGrown with ⟨other, twinAnswered, twinEnded⟩
    exact .of_ok ended twinEnded (refl_of (Evolves base) first) (refl_of (Evolves base) second)
      (same_answer unused.matching grown twinGrown trivial answered twinAnswered)
  · have loads (area : Area ι) : (resolve .bootstrap name).outcome area =
        (load .bootstrap (ClassName.internal name)).outcome area := by
      have other : area.primitiveClass? name = none := if_neg keyword
      rw [resolve, Action.outcome_bind, Action.outcome_get]
      simp only [other]
    have rooted : (base.loader? .bootstrap).isSome := unused.reachable.wellFormed.rooted
    exact .congr (loads first) (loads second)
      (unused.lockstep_load grown twinGrown rooted (ClassName.internal name))

end

end Area

namespace Machine

variable {ι α : Type} {base : Area ι} {machine twin after twinAfter : Machine ι}
  {id other : ClassId}

/-- The machine has done nothing to its area but loading and making mirrors. -/
def Evolves (base : Area ι) (before after : Machine ι) : Prop :=
  base.Evolves before.area after.area

instance : IsPreorder (Machine ι) (Evolves base) where
  refl machine := refl_of (Area.Evolves base) machine.area
  trans _ _ _ := trans_of (Area.Evolves base)

/-- Two machines that have started alike, from a state in which mirrors can be made. -/
structure Twins (base : Area ι) (machine twin : Machine ι) : Prop where
  unused : base.Unused
  reflective : base.Reflective
  left : base.Evolved machine.area
  right : base.Evolved twin.area

/-- Two classes of the same name that one loader has defined. -/
def SameClass (machine twin : Machine ι) (id other : ClassId) : Prop :=
  machine.area.SameName twin.area id other

/-- Two mirrors of classes of the same name. -/
def SameMirror (machine twin : Machine ι) (mirror found : Object) : Prop :=
  ∃ id other, mirror.mirrored? = some id ∧ found.mirrored? = some other ∧
    machine.SameClass twin id other

/-- Two mirrors of classes of the same name, or null twice. -/
def SameReference (machine twin : Machine ι) : Reference → Reference → Prop :=
  Option.Rel (machine.SameMirror twin)

theorem SameClass.later (same : machine.SameClass twin id other) (left : Evolves base machine after)
    (right : Evolves base twin twinAfter) : after.SameClass twinAfter id other :=
  Area.SameName.later same left.retains right.retains

theorem SameMirror.later {mirror found : Object} (same : machine.SameMirror twin mirror found)
    (left : Evolves base machine after) (right : Evolves base twin twinAfter) :
    after.SameMirror twinAfter mirror found := by
  rcases same with ⟨id, other, mirrors, twinMirrors, named⟩
  exact ⟨id, other, mirrors, twinMirrors, named.later left right⟩

theorem SameReference.later {target found : Reference}
    (same : machine.SameReference twin target found) (left : Evolves base machine after)
    (right : Evolves base twin twinAfter) : after.SameReference twinAfter target found := by
  cases same with
  | none => exact .none
  | some same => exact .some (same.later left right)

theorem lockstep_count (advance : Metrics → Metrics) :
    Action.Lockstep (Evolves base) machine twin (Machine.count advance) (Machine.count advance)
      fun _ _ _ _ => True :=
  .of_ok rfl rfl (refl_of (Area.Evolves base) machine.area) (refl_of (Area.Evolves base) twin.area)
    trivial

namespace Twins

/-- Both machines go on. -/
theorem later (twins : Twins base machine twin) (left : Evolves base machine after)
    (right : Evolves base twin twinAfter) : Twins base after twinAfter :=
  { twins with
    left := left.evolved twins.left
    right := right.evolved twins.right }

theorem symm (twins : Twins base machine twin) : Twins base twin machine :=
  { twins with
    left := twins.right
    right := twins.left }

/-! ## Looking up, loading and making -/

theorem isSome_left (same : machine.SameClass twin id other) : (machine.area.class? id).isSome := by
  rcases same with ⟨_, type, _, typed, _⟩
  exact Area.isSome_class?_iff.2 ⟨type, typed⟩

theorem isSome_right (same : machine.SameClass twin id other) :
    (twin.area.class? other).isSome := by
  rcases same with ⟨_, _, type, _, typed, _⟩
  exact Area.isSome_class?_iff.2 ⟨type, typed⟩

theorem getClass (twins : Twins base machine twin) (same : machine.SameClass twin id other) :
    Action.Lockstep (Evolves base) machine twin (Machine.getClass id) (Machine.getClass other)
      fun after twinAfter loaded found => after.SameClass twinAfter id other ∧
        after.area.Alike twinAfter.area loaded.toTypeDescriptor found.toTypeDescriptor := by
  rcases twins.unused.alike twins.left.grown twins.right.grown same with
    ⟨loaded, found, place, twinPlace, alike⟩
  have ended : (Machine.getClass id).outcome machine = (.ok loaded, machine) := by
    rw [outcome_getClass, Area.loadedClass_eq_ok place]
  have twinEnded : (Machine.getClass other).outcome twin = (.ok found, twin) := by
    rw [outcome_getClass, Area.loadedClass_eq_ok twinPlace]
  exact .of_ok ended twinEnded (refl_of (Evolves base) machine) (refl_of (Evolves base) twin)
    ⟨same, alike⟩

theorem onArea {action twinAction : Action (Area ι) α} {post : Area ι → Area ι → α → α → Prop}
    (inner : Action.Lockstep base.Evolves machine.area twin.area action twinAction post) :
    Action.Lockstep (Evolves base) machine twin (Machine.onArea action) (Machine.onArea twinAction)
      fun after twinAfter => post after.area twinAfter.area :=
  Action.Lockstep.within inner (fun _ _ evolves => evolves) fun _ _ => rfl

theorem load (twins : Twins base machine twin) {home : LoaderId}
    (known : (machine.area.loader? home).isSome) (name : ClassName) :
    Action.Lockstep (Evolves base) machine twin (Machine.load home name) (Machine.load home name)
      SameClass := by
  rw [twins.left.grown.frame.isSome] at known
  exact onArea (twins.unused.lockstep_load twins.left.grown twins.right.grown known name)

theorem boot (twins : Twins base machine twin) (name : ClassName) :
    Action.Lockstep (Evolves base) machine twin (Machine.load .bootstrap name)
      (Machine.load .bootstrap name) SameClass :=
  twins.load twins.left.grown.fine.rooted name

/-- Classes that two classes mention are loaded through their common loader. -/
theorem loadFor (twins : Twins base machine twin) (same : machine.SameClass twin id other)
    (name : ClassName) :
    Action.Lockstep (Evolves base) machine twin (Machine.load id.loader name)
      (Machine.load other.loader name) SameClass := by
  rw [← same.1]
  exact twins.load (Area.isSome_loader? (isSome_left same)) name

theorem resolve (twins : Twins base machine twin) (name : String) :
    Action.Lockstep (Evolves base) machine twin (Machine.resolve .bootstrap name)
      (Machine.resolve .bootstrap name) SameClass :=
  onArea (twins.unused.lockstep_resolve twins.left.grown twins.right.grown name)

theorem makeObject {make twinMake : ObjectId → Object}
    {post : Machine ι → Machine ι → Object → Object → Prop}
    (told : ∀ {after twinAfter}, Evolves base machine after → Evolves base twin twinAfter →
      ∀ identity twinIdentity, post after twinAfter (make identity) (twinMake twinIdentity)) :
    Action.Lockstep (Evolves base) machine twin (Machine.makeObject make)
      (Machine.makeObject twinMake) post := by
  have left : Evolves base machine ((Machine.makeObject make).outcome machine).2 :=
    refl_of (Area.Evolves base) machine.area
  have right : Evolves base twin ((Machine.makeObject twinMake).outcome twin).2 :=
    refl_of (Area.Evolves base) twin.area
  exact .of_ok rfl rfl left right (told left right _ _)

theorem makeText (twins : Twins base machine twin) (content : String) :
    Action.Lockstep (Evolves base) machine twin (Machine.makeText content)
      (Machine.makeText content) fun _ _ text found => text.content? = found.content? :=
  (twins.boot .string).bind fun _ _ _ => makeObject fun _ _ _ _ => rfl

theorem makeArray (twins : Twins base machine twin) (same : machine.SameClass twin id other)
    {elements twinElements : List Reference}
    (alike : List.Forall₂ (machine.SameReference twin) elements twinElements) :
    Action.Lockstep (Evolves base) machine twin (Machine.makeArray id elements)
      (Machine.makeArray other twinElements) fun after twinAfter array found =>
        Option.Rel (List.Forall₂ (after.SameReference twinAfter)) array.elements?
          found.elements? := by
  refine (twins.getClass same).bind fun left right told => ?_
  rw [told.2.name]
  refine ((twins.later left right).loadFor told.1 _).bind fun loaded twinLoaded _ => ?_
  refine makeObject fun made twinMade _ _ => .some (alike.imp fun _ _ same => ?_)
  exact ((same.later left right).later loaded twinLoaded).later made twinMade

/-! ## Mirrors -/

/-- The class of mirrors is found, since it has been possible to load it in the
beginning. -/
theorem exists_load (twins : Twins base machine twin) :
    ∃ type after, (Machine.load .bootstrap .mirror).outcome machine = (.ok type, after) ∧
      Evolves base machine after := by
  rcases twins.reflective with ⟨type, loads⟩
  have rooted := twins.unused.reachable.wellFormed.rooted
  have same := twins.unused.lockstep_load twins.unused.grown twins.left.grown rooted
    ClassName.mirror
  rcases first : (Area.load .bootstrap .mirror).outcome base with ⟨result, later⟩
  rcases second : (Area.load .bootstrap .mirror).outcome machine.area with ⟨found, middle⟩
  rcases same with ⟨_, evolves, agree⟩
  rw [first] at loads agree
  rw [second] at evolves agree
  cases loads
  cases agree with
  | @returned _ _ _ type told =>
    refine ⟨type, { machine with area := middle }, ?_, evolves⟩
    rw [outcome_load, second]

/-- The mirror of a class is found or made, and stands for the class. -/
theorem exists_mirrorOf (twins : Twins base machine twin)
    (known : (machine.area.class? id).isSome) :
    ∃ mirror after, (Machine.mirrorOf id).outcome machine = (.ok mirror, after) ∧
      Evolves base machine after ∧ mirror.mirrored? = some id := by
  rcases Option.isSome_iff_exists.1 known with ⟨loaded, place⟩
  rw [Machine.mirrorOf, Action.outcome_bind, outcome_getClass, Area.loadedClass_eq_ok place]
  cases kept : loaded.mirror with
  | some mirror =>
    have own : machine.area.mirror? id = some mirror := (Area.mirror?_eq place).trans kept
    refine ⟨mirror, machine, ?_, refl_of (Evolves base) machine, twins.left.mirrored id mirror own⟩
    simp only [kept, Action.outcome_pure]
  | none =>
    rcases twins.exists_load with ⟨type, middle, loads, evolves⟩
    let mirror : Object := .plain ⟨middle.number, middle.nextObject⟩ type (some (.mirror id))
    have makes : Evolves base middle ((makeMirror id type).outcome middle).2 :=
      Area.evolves_keepMirror base middle.area mirror rfl
    refine ⟨mirror, _, ?_, trans_of (Evolves base) evolves makes, rfl⟩
    simp only [kept]
    rw [Action.outcome_bind, loads]
    rfl

theorem mirrorOf (twins : Twins base machine twin) (same : machine.SameClass twin id other) :
    Action.Lockstep (Evolves base) machine twin (Machine.mirrorOf id) (Machine.mirrorOf other)
      SameMirror := by
  rcases twins.exists_mirrorOf (isSome_left same) with ⟨mirror, after, ended, left, mirrors⟩
  rcases twins.symm.exists_mirrorOf (isSome_right same) with
    ⟨found, twinAfter, twinEnded, right, twinMirrors⟩
  exact .of_ok ended twinEnded left right
    ⟨id, other, mirrors, twinMirrors, same.later left right⟩

theorem mirrorOf? (twins : Twins base machine twin) {id? other? : Option ClassId}
    (same : Option.Rel (machine.SameClass twin) id? other?) :
    Action.Lockstep (Evolves base) machine twin (Machine.mirrorOf? id?)
      (Machine.mirrorOf? other?) SameReference := by
  cases same with
  | none => exact .pure .none
  | some same => exact .map some ((twins.mirrorOf same).mono .some)

theorem mirrorsOf (twins : Twins base machine twin) {ids others : List ClassId}
    (same : List.Forall₂ (machine.SameClass twin) ids others) :
    Action.Lockstep (Evolves base) machine twin (Machine.mirrorsOf ids)
      (Machine.mirrorsOf others)
      fun after twinAfter => List.Forall₂ (after.SameReference twinAfter) := by
  induction ids generalizing others machine twin with
  | nil =>
    cases same
    exact .pure .nil
  | cons first rest inductiveStep =>
    cases same with
    | cons head tail =>
      refine (twins.mirrorOf head).bind fun {middle twinMiddle _ _} left right mirrors => ?_
      have remaining : List.Forall₂ (middle.SameClass twinMiddle) rest _ :=
        tail.imp fun _ _ same => same.later left right
      refine (inductiveStep (twins.later left right) remaining).bind
        fun left right others => .pure ?_
      exact .cons (.some (mirrors.later left right)) others

/-! ## Questions -/

/-- A question about a class to which the class in question refers. -/
theorem referred (twins : Twins base machine twin) (same : machine.SameClass twin id other)
    (refer : TypeDescriptor → Option ClassId)
    (refers : ∀ {first second : Area ι} {type otherType}, first.Alike second type otherType →
      Option.Rel (first.SameName second) (refer type) (refer otherType)) :
    Action.Lockstep (Evolves base) machine twin
      (do Machine.mirrorOf? (refer (← Machine.getClass id).toTypeDescriptor))
      (do Machine.mirrorOf? (refer (← Machine.getClass other).toTypeDescriptor))
      SameReference :=
  (twins.getClass same).bind fun left right told =>
    (twins.later left right).mirrorOf? (refers told.2)

theorem componentType (twins : Twins base machine twin) (same : machine.SameClass twin id other) :
    Action.Lockstep (Evolves base) machine twin (Machine.componentType id)
      (Machine.componentType other) SameReference :=
  twins.referred same (fun type => type.component) fun alike => alike.component

theorem superclass (twins : Twins base machine twin) (same : machine.SameClass twin id other) :
    Action.Lockstep (Evolves base) machine twin (Machine.superclass id)
      (Machine.superclass other) SameReference :=
  twins.referred same (fun type => type.superclass) fun alike => alike.superclass

theorem declaringClass (twins : Twins base machine twin) (same : machine.SameClass twin id other) :
    Action.Lockstep (Evolves base) machine twin (Machine.declaringClass id)
      (Machine.declaringClass other) SameReference := by
  refine (twins.getClass same).bind fun left right told => ?_
  rcases told with ⟨same, alike⟩
  have twins := twins.later left right
  rw [alike.declaringName?]
  split
  next name _ =>
    refine .map some ?_
    refine (twins.loadFor same name).bind fun left right same => ?_
    exact ((twins.later left right).mirrorOf same).mono .some
  next => exact .pure .none

theorem interfaces (twins : Twins base machine twin) (same : machine.SameClass twin id other) :
    Action.Lockstep (Evolves base) machine twin (Machine.interfaces id)
      (Machine.interfaces other) fun after twinAfter array found =>
        Option.Rel (List.Forall₂ (after.SameReference twinAfter)) array.elements?
          found.elements? := by
  refine (twins.getClass same).bind fun left right told => ?_
  have twins := twins.later left right
  refine (twins.mirrorsOf told.2.interfaces).bind fun left right mirrors => ?_
  have twins := twins.later left right
  refine (twins.boot .mirror).bind fun left right component => ?_
  exact (twins.later left right).makeArray component
    (mirrors.imp fun _ _ same => same.later left right)

theorem nameText (twins : Twins base machine twin) (same : machine.SameClass twin id other) :
    Action.Lockstep (Evolves base) machine twin (Machine.nameText id) (Machine.nameText other)
      fun _ _ text found => text.content? = found.content? := by
  refine (twins.getClass same).bind fun left right told => ?_
  rw [told.2.binaryName]
  exact (twins.later left right).makeText _

end Twins

end Machine
end ClassRuntime

import ClassRuntime.Proofs.Loader.Reachable

namespace ClassRuntime

/-!
# Loading always ends

Loads are limited by numbers that are read off the area.  This module shows that
the limits do not matter.  The recursion is written down once more without any:
to load a class is to take one step and to load further classes in the same way,
for as many levels as it takes.  Every load from a reachable area needs only
finitely many levels, no matter what the definitions look like, and ends as the
load with limits does.

No single quantity goes down from level to level.  A load of a class that is no
array asks a parent, of which there are fewer and fewer, or links a definition,
of which there are fewer and fewer without a mark.  A load of an array goes on
with a shorter name, and then with classes that are no arrays.
-/

namespace Action

variable {σ α β : Type}

/-- From some member on, the actions of a family do what the given one does. -/
def Approaches (family : Nat → Action σ α) (action : Action σ α) (state : σ) : Prop :=
  ∃ enough, ∀ levels, enough ≤ levels → (family levels).outcome state = action.outcome state

namespace Approaches

variable {family : Nat → Action σ α} {action : Action σ α} {state : σ}

theorem of_eq (same : ∀ levels, (family levels).outcome state = action.outcome state) :
    Approaches family action state :=
  ⟨0, fun levels _ => same levels⟩

theorem const (action : Action σ α) (state : σ) : Approaches (fun _ => action) action state :=
  .of_eq fun _ => rfl

/-- The first members do not matter. -/
theorem of_succ (approaches : Approaches (fun levels => family (levels + 1)) action state) :
    Approaches family action state := by
  rcases approaches with ⟨enough, same⟩
  refine ⟨enough + 1, fun levels more => ?_⟩
  cases levels with
  | zero => exact absurd more (Nat.not_succ_le_zero _)
  | succ levels => exact same levels (Nat.le_of_succ_le_succ more)

theorem attempt (approaches : Approaches family action state) :
    Approaches (fun levels => (family levels).attempt) action.attempt state := by
  rcases approaches with ⟨enough, same⟩
  refine ⟨enough, fun levels more => ?_⟩
  rw [outcome_attempt, outcome_attempt, same levels more]

theorem bind {following : Nat → α → Action σ β} {next : α → Action σ β}
    (first : Approaches family action state)
    (rest : ∀ value after, action.outcome state = (.ok value, after) →
      Approaches (fun levels => following levels value) (next value) after) :
    Approaches (fun levels => family levels >>= following levels) (action >>= next) state := by
  rcases first with ⟨enough, same⟩
  rcases ended : action.outcome state with ⟨fault | value, after⟩
  · refine ⟨enough, fun levels more => ?_⟩
    rw [outcome_bind, outcome_bind, same levels more, ended]
  · rcases rest value after ended with ⟨enoughLater, sameLater⟩
    refine ⟨max enough enoughLater, fun levels more => ?_⟩
    rw [outcome_bind, outcome_bind, same levels (Nat.le_trans (Nat.le_max_left _ _) more), ended]
    exact sameLater levels (Nat.le_trans (Nat.le_max_right _ _) more)

end Approaches
end Action

namespace Area

open ClassRuntime.Action

variable {ι : Type} {area : Area ι}

/-! ## The recursion without limits -/

/-- The array class of a component, given a way to load further classes. -/
def joinArray (again : Load ι) (name : ClassName) (component : ClassId) :
    Action (Area ι) ClassId := do
  let element ← getClass component
  let root ← again .bootstrap .object
  let cloneable ← again .bootstrap .cloneable
  let serializable ← again .bootstrap .serializable
  keepArray name component
    (arrayType name component element.toTypeDescriptor root [cloneable, serializable])

/-- How a loader finds a class for which it has no answer, given a way to load
further classes. -/
def seek (again : Load ι) (id : LoaderId) (parent : Option LoaderId) (name : ClassName) :
    Action (Area ι) ClassId :=
  if name.isArray then
    match name.component? with
    | none => Action.fail (.classNotFound name)
    | some componentName => again id componentName >>= joinArray again name
  else
    match parent with
    | none => define again id name
    | some parent => do
      let answer ← Action.attempt (again parent name)
      orDefine again id name answer

/-- One step of a load, given a way to load further classes. -/
def loadStep (again : Load ι) : Load ι := fun id name => do
  let loader ← getLoader id
  match loader.byName.find? name with
  | some found => pure found
  | none => do
    let found ← seek again id loader.parent name
    remember id name found
    pure found

/-- Loads that may go the given number of levels deep, whatever they are made
for. -/
def unrolled : Nat → Load ι
  | 0 => fun _ _ => throw .exhausted
  | levels + 1 => loadStep (unrolled levels)

section Step

variable {again : Load ι} {id : LoaderId} {loader : Loader ι} {name : ClassName}

theorem outcome_loadStep_known (known : area.loader? id = some loader) {found : ClassId}
    (answered : area.lookup? id name = some found) :
    (loadStep again id name).outcome area = (.ok found, area) := by
  rw [lookup?_eq known] at answered
  simp only [loadStep, Action.outcome_bind, outcome_getLoader, loader_eq_ok known, answered,
    Action.outcome_pure]

theorem outcome_loadStep_seek (known : area.loader? id = some loader)
    (unanswered : area.lookup? id name = none) :
    (loadStep again id name).outcome area =
      settle id name ((seek again id loader.parent name).outcome area) := by
  rw [lookup?_eq known] at unanswered
  rw [loadStep, Action.outcome_bind, outcome_getLoader, loader_eq_ok known]
  simp only [unanswered]
  exact outcome_settle _

end Step

/-- A step settles what a load settles if it finds what the load finds. -/
theorem reaches_of_seek {id : LoaderId} {loader : Loader ι} {name : ClassName}
    {load action : Action (Area ι) ClassId} (known : area.loader? id = some loader)
    (unanswered : area.lookup? id name = none)
    (same : load.outcome area = Area.settle id name (action.outcome area))
    (approaches : Approaches (fun levels => seek (unrolled levels) id loader.parent name)
      action area) : Approaches (fun levels => unrolled levels id name) load area := by
  apply Approaches.of_succ
  rcases approaches with ⟨enough, found⟩
  refine ⟨enough, fun levels more => ?_⟩
  change (loadStep (unrolled levels) id name).outcome area = _
  rw [outcome_loadStep_seek known unanswered, found levels more, same]

/-- What is answered already takes one level. -/
theorem reaches_of_answer {id : LoaderId} {loader : Loader ι} {name : ClassName} {found : ClassId}
    {load : Action (Area ι) ClassId} (known : area.loader? id = some loader)
    (answered : area.lookup? id name = some found) (same : load.outcome area = (.ok found, area)) :
    Approaches (fun levels => unrolled levels id name) load area := by
  apply Approaches.of_succ
  apply Approaches.of_eq
  intro levels
  change (loadStep (unrolled levels) id name).outcome area = _
  rw [outcome_loadStep_known known answered, same]

/-! ## Linking -/

/-- Where a safe action has ended, a load can begin as well as before. -/
theorem Safe.onward {α : Type} {bound id : LoaderId} {post : α → Area ι → Prop}
    {outcome : Except Fault α × Area ι} (safe : Safe bound post area outcome) {after : Area ι}
    (ended : outcome.2 = after) {limit : Nat} (known : (area.loader? id).isSome)
    (enough : area.unlinkedCount < limit) :
    after.WellFormed ∧ (after.loader? id).isSome ∧ after.unlinkedCount < limit := by
  subst ended
  refine ⟨safe.wellFormed, ?_, ?_⟩
  · rw [safe.grows.frame.isSome]
    exact known
  · rw [unlinkedCount_eq safe.grows.frame]
    exact enough

theorem eq_of_getClass {id : ClassId} {after : Area ι} {result : Except Fault (LoadedClass ι)}
    (looked : (getClass id).outcome area = (result, after)) : after = area := by
  rw [outcome_getClass] at looked
  exact (congrArg Prod.snd looked).symm

/-- A way to load classes that the recursion comes to, as long as fewer
definitions than the given number are without a mark. -/
def ReachedLoad (budget : Nat) (load : Load ι) : Prop :=
  ∀ {area : Area ι} {id : LoaderId} (name : ClassName), area.WellFormed →
    (area.loader? id).isSome → area.unlinkedCount < budget →
      Approaches (fun levels => unrolled levels id name) (load id name) area

section

variable {budget : Nat} {nested : Load ι} {id : LoaderId} {definition : ClassDefinition ι}

theorem reaches_linkSuperclass (reached : ReachedLoad budget nested) (fine : area.WellFormed)
    (known : (area.loader? id).isSome) (enough : area.unlinkedCount < budget) :
    Approaches (fun levels => linkSuperclass (unrolled levels id) definition)
      (linkSuperclass (nested id) definition) area := by
  unfold linkSuperclass
  split
  · exact .const _ area
  next name _ =>
    exact (reached name fine known enough).bind fun found after _ => .const _ after

theorem reaches_linkInterfaces (reached : ReachedLoad budget nested)
    (safe : SafeLoad budget nested) (names : List ClassName) (fine : area.WellFormed)
    (known : (area.loader? id).isSome) (enough : area.unlinkedCount < budget) :
    Approaches (fun levels => linkInterfaces (unrolled levels id) definition names)
      (linkInterfaces (nested id) definition names) area := by
  induction names generalizing area with
  | nil => exact .const _ area
  | cons name rest inductiveStep =>
    refine (reached name fine known enough).bind fun found after ended => ?_
    rcases (safe name fine known enough).onward (congrArg Prod.snd ended) known enough with
      ⟨fineAfter, knownAfter, enoughAfter⟩
    refine (Approaches.const (getClass found) after).bind fun inherited later looked => ?_
    rw [eq_of_getClass looked]
    split
    · exact (inductiveStep fineAfter knownAfter enoughAfter).bind fun others last _ =>
        .const _ last
    · exact .const _ after

theorem reaches_link (reached : ReachedLoad budget nested) (safe : SafeLoad budget nested)
    (source : Source) (definition : ClassDefinition ι) (fine : area.WellFormed)
    (known : (area.loader? id).isSome) (enough : area.unlinkedCount < budget) :
    Approaches (fun levels => link (unrolled levels id) source definition)
      (link (nested id) source definition) area := by
  refine (reaches_linkSuperclass reached fine known enough).bind fun superclass after ended => ?_
  have linked : Safe id _ area ((linkSuperclass (nested id) definition).outcome area) :=
    safe_linkSuperclass safe fine known enough
  rcases linked.onward (congrArg Prod.snd ended) known enough with
    ⟨fineAfter, knownAfter, enoughAfter⟩
  exact (reaches_linkInterfaces reached safe _ fineAfter knownAfter enoughAfter).bind
    fun interfaces last _ => .const _ last

/-- A definition is linked under a mark, so that one less is without. -/
theorem reaches_define (reached : ReachedLoad budget nested) (safe : SafeLoad budget nested)
    {name : ClassName} (named : ¬ name.isArray) (fine : area.WellFormed)
    (known : (area.loader? id).isSome) (enough : area.unlinkedCount < budget + 1) :
    Approaches (fun levels => define (unrolled levels) id name) (define nested id name) area := by
  rcases Option.isSome_iff_exists.1 known with ⟨loader, present⟩
  cases answered : area.lookup? id name with
  | some found =>
    apply Approaches.of_eq
    intro levels
    rw [outcome_define_known present answered, outcome_define_known present answered]
  | none =>
    cases defined : area.definition? id name with
    | none =>
      apply Approaches.of_eq
      intro levels
      rw [outcome_define_undefined present answered defined,
        outcome_define_undefined present answered defined]
    | some definition =>
      by_cases marked : name ∈ area.linking id
      · apply Approaches.of_eq
        intro levels
        rw [outcome_define_circular present answered defined marked,
          outcome_define_circular present answered defined marked]
      · have fineMarked := fine.mark present named answered
        have knownMarked := Option.isSome_iff_exists.2 ⟨_, loader?_mark present name⟩
        have fewer := unlinkedCount_mark defined marked
        have linking := safe_link safe loader.source definition fineMarked knownMarked (by omega)
        rcases reaches_link reached safe loader.source definition fineMarked
          knownMarked (by omega) with ⟨levels, same⟩
        refine ⟨levels, fun more deep => ?_⟩
        replace same := same more deep
        rcases ended : (link (nested id) loader.source definition).outcome
          (area.updateLoader id fun loader => loader.mark name) with ⟨fault | type, middle⟩
        all_goals rw [ended] at same linking
        · rw [outcome_define_unlinked present answered defined marked ended,
            outcome_define_unlinked present answered defined marked same]
        · rcases (grows_unmark linking.grows).frame.known present with ⟨later, kept, _⟩
          rw [outcome_define_linked present answered defined marked ended kept,
            outcome_define_linked present answered defined marked same kept]

/-! ## Delegation -/

theorem reaches_orDefine (reached : ReachedLoad budget nested) (safe : SafeLoad budget nested)
    {name : ClassName} (named : ¬ name.isArray) (answer : Except Fault ClassId)
    (fine : area.WellFormed) (known : (area.loader? id).isSome)
    (enough : area.unlinkedCount < budget + 1) :
    Approaches (fun levels => orDefine (unrolled levels) id name answer)
      (orDefine nested id name answer) area := by
  unfold orDefine
  split
  · exact .const _ area
  · exact reaches_define reached safe named fine known enough
  · exact .const _ area

/-- Each parent is a level, and has a lower number than its child. -/
theorem reaches_delegate (reached : ReachedLoad budget nested) (safe : SafeLoad budget nested)
    {name : ClassName} (named : ¬ name.isArray) (bound : Nat) (within : id.index < bound)
    (fine : area.WellFormed) (known : (area.loader? id).isSome)
    (enough : area.unlinkedCount < budget + 1) :
    Approaches (fun levels => unrolled levels id name) (delegate nested bound id name) area := by
  induction bound generalizing id with
  | zero => exact absurd within (Nat.not_lt_zero _)
  | succ bound inductiveStep =>
    rcases Option.isSome_iff_exists.1 known with ⟨loader, present⟩
    cases answered : area.lookup? id name with
    | some found =>
      exact reaches_of_answer present answered (outcome_delegate_known present answered)
    | none =>
      have parent := parent?_eq present
      cases below : area.parent? id with
      | none =>
        rw [below] at parent
        apply reaches_of_seek present answered (outcome_delegate_top present answered below)
        simp only [seek, if_neg named, ← parent]
        exact reaches_define reached safe named fine known enough
      | some above =>
        rw [below] at parent
        have lower := fine.descending below
        have bounded : above.index < bound := by omega
        have knownAbove := fine.parent_known below
        have asked := safe_delegate safe named bounded fine knownAbove enough
        have same : (delegate nested (bound + 1) id name).outcome area =
            Area.settle id name ((do
              let answer ← Action.attempt (delegate nested bound above name)
              orDefine nested id name answer).outcome area) := by
          rw [outcome_delegate_parent present answered below, Action.outcome_bind,
            Action.outcome_attempt]
        apply reaches_of_seek present answered same
        simp only [seek, if_neg named, ← parent]
        refine (inductiveStep bounded knownAbove).attempt.bind fun answer after ended => ?_
        rw [Action.outcome_attempt, Prod.mk.injEq] at ended
        rcases asked.onward ended.2 known enough with ⟨fineAfter, knownAfter, enoughAfter⟩
        exact reaches_orDefine reached safe named answer fineAfter knownAfter enoughAfter

theorem reaches_loadOrdinary (reached : ReachedLoad budget nested)
    (safe : SafeLoad budget nested) {name : ClassName} (named : ¬ name.isArray)
    (fine : area.WellFormed) (known : (area.loader? id).isSome)
    (enough : area.unlinkedCount < budget + 1) :
    Approaches (fun levels => unrolled levels id name) (loadOrdinary nested id name) area := by
  have bounded := loader?_isSome_iff.1 known
  exact reaches_delegate reached safe named (area.loaders.size + 1) (by omega) fine known enough

/-! ## Arrays -/

theorem reaches_obtainArray (reached : ReachedLoad budget nested)
    (safe : SafeLoad budget nested) (name : ClassName) (component : ClassId)
    (fine : area.WellFormed) (enough : area.unlinkedCount < budget + 1) :
    Approaches (fun levels => joinArray (unrolled levels) name component)
      (obtainArray nested name component) area := by
  rw [obtainArray_eq]
  refine (Approaches.const (getClass component) area).bind fun element first looked => ?_
  rw [eq_of_getClass looked]
  refine (reaches_loadOrdinary reached safe (by decide) fine fine.rooted enough).bind
    fun root second ended => ?_
  have loaded : Safe .bootstrap _ area ((loadOrdinary nested .bootstrap .object).outcome area) :=
    safe_loadBoot safe (by decide) fine enough
  rcases loaded.onward (congrArg Prod.snd ended) fine.rooted enough with
    ⟨fineSecond, rootedSecond, enoughSecond⟩
  refine (reaches_loadOrdinary reached safe (by decide) fineSecond rootedSecond enoughSecond).bind
    fun cloneable third ended => ?_
  have loaded : Safe .bootstrap _ second
      ((loadOrdinary nested .bootstrap .cloneable).outcome second) :=
    safe_loadBoot safe (by decide) fineSecond enoughSecond
  rcases loaded.onward (congrArg Prod.snd ended) rootedSecond enoughSecond with
    ⟨fineThird, rootedThird, enoughThird⟩
  exact (reaches_loadOrdinary reached safe (by decide) fineThird rootedThird enoughThird).bind
    fun serializable last _ => .const _ last

/-- The name of the component is shorter, and no arrays are needed but for it. -/
theorem reaches_loadWith (reached : ReachedLoad budget nested) (safe : SafeLoad budget nested)
    (name : ClassName) (fine : area.WellFormed) (known : (area.loader? id).isSome)
    (enough : area.unlinkedCount < budget + 1) :
    Approaches (fun levels => unrolled levels id name) (loadWith nested id name) area := by
  by_cases array : name.isArray
  · rcases Option.isSome_iff_exists.1 known with ⟨loader, present⟩
    cases answered : area.lookup? id name with
    | some found =>
      exact reaches_of_answer present answered (outcome_loadWith_known array present answered)
    | none =>
      cases shape : name.component? with
      | none =>
        have same : (loadWith nested id name).outcome area = Area.settle id name
            ((Action.fail (.classNotFound name) : Action (Area ι) ClassId).outcome area) :=
          outcome_loadWith_malformed array present answered shape
        apply reaches_of_seek present answered same
        simp only [seek, if_pos array, shape]
        exact .const _ area
      | some componentName =>
        apply reaches_of_seek present answered
          (outcome_loadWith_array array present answered shape)
        simp only [seek, if_pos array, shape]
        have inner := reaches_loadWith reached safe componentName fine known enough
        refine inner.bind fun component after ended => ?_
        rcases (safe_loadWith safe componentName fine known enough).onward
          (congrArg Prod.snd ended) known enough with ⟨fineAfter, _, enoughAfter⟩
        exact reaches_obtainArray reached safe name component fineAfter enoughAfter
  · have same : (loadWith nested id name).outcome area =
        (loadOrdinary nested id name).outcome area := outcome_loadWith_ordinary array
    rcases reaches_loadOrdinary reached safe array fine known enough with ⟨levels, equal⟩
    exact ⟨levels, fun more deep => (equal more deep).trans same.symm⟩
termination_by name.nesting
decreasing_by exact ClassName.nesting_component? shape

end

theorem reached_loadNested (depth : Nat) : ReachedLoad depth (loadNested depth : Load ι) := by
  induction depth with
  | zero => exact fun _ _ _ enough => absurd enough (Nat.not_lt_zero _)
  | succ depth inductiveStep =>
    exact fun name fine known enough =>
      reaches_loadWith inductiveStep (safe_loadNested depth) name fine known enough

/-! ## Every load -/

/-- From every reachable area and through every loader, whatever has been
defined, every name is loaded in finitely many levels, with a class or with an
error of the runtime.  The limits of a load make no difference to this. -/
theorem Reachable.load_ends (reachable : area.Reachable) {id : LoaderId}
    (known : (area.loader? id).isSome) (name : ClassName) :
    ∃ levels result after,
      (∀ more, levels ≤ more → (unrolled more id name).outcome area = (result, after)) ∧
      (Area.load id name).outcome area = (result, after) ∧
      ∀ fault, result = .error fault → ∃ cause, fault = .error cause := by
  have fine := reachable.wellFormed
  have safe := safe_load name fine known
  have limited : area.unlinkedCount < area.definitionCount + 1 :=
    Nat.lt_succ_of_le (unlinkedCount_le_definitionCount area)
  rcases reached_loadNested _ name fine known limited with ⟨levels, same⟩
  exact ⟨levels, _, _, same, rfl, safe.cause⟩

/-- The case of two classes each of which extends an array of the other, where
the root itself, without which there are no arrays, implements one. -/
theorem load_ends_tangled :
    let definitions : List (ClassDefinition Unit) :=
      [(ClassDefinition.ordinary ClassName.object).implementing ["[[Ljava/lang/Cloneable;"],
        (ClassDefinition.interface ClassName.cloneable).implementing ["[Ljava/lang/Object;"],
        (ClassDefinition.interface ClassName.serializable).implementing ["[Ljava/io/Serializable;"]]
    let added := ((addLoader "added" .bootPath none).outcome (initial definitions)).2
    let first := ((addDefinition ⟨1⟩ ((ClassDefinition.ordinary "A").extending "[LB;")).outcome
      added).2
    let area := ((addDefinition ⟨1⟩ ((ClassDefinition.ordinary "B").extending "[LA;")).outcome
      first).2
    area.Reachable ∧ (area.loader? ⟨1⟩).isSome ∧ ∃ levels after, ∀ more, levels ≤ more →
      (unrolled more ⟨1⟩ "[[LA;").outcome area =
        (.error (.error (.classCircularity "A")), after) := by
  intro definitions added first area
  have reachable : area.Reachable :=
    .addDefinition _ _ (.addDefinition _ _ (.addLoader _ _ _ (by simp) (.initial _)))
  have known : (area.loader? ⟨1⟩).isSome := by decide +kernel
  rcases reachable.load_ends known "[[LA;" with ⟨levels, result, after, same, ended, _⟩
  have failed : ((Area.load ⟨1⟩ "[[LA;").outcome area).1 =
      .error (.error (.classCircularity "A")) := by
    decide +kernel
  rw [ended] at failed
  cases failed
  exact ⟨reachable, known, levels, after, same⟩

end Area
end ClassRuntime

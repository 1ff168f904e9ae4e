import ClassRuntime.Proofs.Loader.Retention

namespace ClassRuntime
namespace Area

/-!
# The identity of classes

A class is known by its name and the loader that defined it.  A loader has no
two classes of one name, and what it answers to a name is a class of that name
which the loader itself or one of those above it has defined.

Once a loader has loaded a class it goes on answering the name with this class,
whatever happens afterwards.  A definition that is added or replaced too late
has no effect, not even if it is given to a loader that would be asked first.
-/

variable {ι : Type} {area before after : Area ι}

/-- What can happen to an area at a time. -/
inductive Step : Area ι → Area ι → Prop
  | addLoader {area : Area ι} (name : String) (source : Source) (parent : Option LoaderId)
      (issued : ∀ known ∈ parent, (area.loader? known).isSome) :
      Step area ((addLoader name source parent).outcome area).2
  | addDefinition {area : Area ι} (id : LoaderId) (definition : ClassDefinition ι) :
      Step area ((addDefinition id definition).outcome area).2
  | load {area : Area ι} (id : LoaderId) (name : ClassName) :
      Step area ((load id name).outcome area).2
  | note {area : Area ι} (id : ClassId) (progress : Progress) (mirror pool : Option Object) :
      Step area (area.updateClass id fun loaded => { loaded with progress, mirror, pool })
  | hand {area : Area ι} (id : LoaderId) (handle : Option Object) :
      Step area (area.updateLoader id fun loader => { loader with handle })

/-- The second area comes about from the first. -/
def BecomesLater : Area ι → Area ι → Prop :=
  Relation.ReflTransGen Step

theorem Step.reachable (step : Step before after) (reachable : before.Reachable) :
    after.Reachable := by
  cases step with
  | addLoader name source parent issued => exact .addLoader name source parent issued reachable
  | addDefinition id definition => exact .addDefinition id definition reachable
  | load id name => exact .load id name reachable
  | note id progress mirror pool => exact .note id progress mirror pool reachable
  | hand id handle => exact .hand id handle reachable

/-- The reachable areas are those that come about from an area without loaders
of its own. -/
theorem reachable_iff_later :
    area.Reachable ↔ ∃ definitions, (initial definitions).BecomesLater area := by
  constructor
  · intro reachable
    induction reachable with
    | initial definitions => exact ⟨definitions, .refl⟩
    | addLoader name source parent issued _ before =>
      exact before.imp fun _ later => later.tail (.addLoader name source parent issued)
    | addDefinition id definition _ before =>
      exact before.imp fun _ later => later.tail (.addDefinition id definition)
    | load id name _ before => exact before.imp fun _ later => later.tail (.load id name)
    | note id progress mirror pool _ before =>
      exact before.imp fun _ later => later.tail (.note id progress mirror pool)
    | hand id handle _ before => exact before.imp fun _ later => later.tail (.hand id handle)
  · rintro ⟨definitions, later⟩
    induction later with
    | refl => exact .initial definitions
    | tail _ step reachable => exact step.reachable reachable

theorem Step.retains (step : Step before after) : before.Retains after := by
  cases step with
  | addLoader name source parent _ => exact retains_addLoader name source parent before
  | addDefinition id definition => exact retains_addDefinition id definition before
  | load id name => exact retains_load id name before
  | note id progress mirror pool => exact retains_updateClass before id fun _ => rfl
  | hand id handle =>
    exact retains_relink before id (fun loader => { loader with handle }) (fun _ => rfl)
      fun _ => rfl

/-- Nothing that happens takes a loader, a type or an answer back. -/
theorem BecomesLater.retains (later : before.BecomesLater after) : before.Retains after := by
  induction later with
  | refl => exact .refl before
  | tail _ step inductiveStep => exact inductiveStep.trans step.retains

/-- A class that has been loaded is found at any later time, and without any
change. -/
theorem BecomesLater.load_again {last : Area ι} {id : LoaderId} {name : ClassName}
    {found : ClassId} (ended : (load id name).outcome before = (.ok found, after))
    (later : after.BecomesLater last) : (load id name).outcome last = (.ok found, last) :=
  outcome_load_answered (later.retains.answer (lookup?_of_load ended))

/-- In every reachable area a class is identified by its loader and its name,
and what a loader has once answered to a name is settled. -/
theorem Reachable.classes_identified (reachable : area.Reachable) :
    (∀ first second type other, area.class? first = some type → area.class? second = some other →
      first.loader = second.loader → type.name = other.name → first = second) ∧
    (∀ id loaded, area.class? id = some loaded → area.lookup? id.loader loaded.name = some id) ∧
    (∀ id name found, area.lookup? id name = some found → area.Delegates id found.loader ∧
      ∃ loaded, area.class? found = some loaded ∧ loaded.name = name) ∧
    (∀ id name found after last, (Area.load id name).outcome area = (.ok found, after) →
      after.BecomesLater last → (Area.load id name).outcome last = (.ok found, last)) := by
  have fine := reachable.wellFormed
  refine ⟨?_, ?_, ?_, ?_⟩
  · intro first second type other found foundOther home named
    exact fine.unique (type?_of_class? found) (type?_of_class? foundOther) home named
  · intro id loaded found
    exact fine.recorded (type?_of_class? found)
  · intro id name found answered
    rcases fine.answered answered with ⟨asked, type, typed, named⟩
    rcases class?_of_type? typed with ⟨loaded, present, rfl⟩
    exact ⟨asked, loaded, present, named⟩
  · intro id name found after last ended later
    exact later.load_again ended

/-- The case of a loader whose parent has defined a class under a name that a
third loader has used as well.  Afterwards the parent is given another
definition, and so is the bootstrap loader. -/
theorem classes_identified_replaced :
    let definitions : List (ClassDefinition Unit) :=
      [{ ClassDefinition.ordinary ClassName.object with superName := none }]
    let first := ((addLoader "first" (.userPath "a.jar") none).outcome (initial definitions)).2
    let second := ((addLoader "second" .bootPath (some ⟨1⟩)).outcome first).2
    let third := ((addLoader "third" .bootPath none).outcome second).2
    let defined := ((addDefinition ⟨3⟩ (.interface "A")).outcome
      ((addDefinition ⟨1⟩ (.ordinary "A")).outcome third).2).2
    let area := ((load ⟨3⟩ "A").outcome defined).2
    let after := ((load ⟨2⟩ "A").outcome area).2
    let last := ((addDefinition .bootstrap (.interface "A")).outcome
      ((addDefinition ⟨1⟩ ((ClassDefinition.ordinary "A").extending "Missing")).outcome after).2).2
    area.Reachable ∧ area.lookup? ⟨3⟩ "A" = some ⟨⟨3⟩, 0⟩ ∧
      (load ⟨2⟩ "A").outcome area = (.ok ⟨⟨1⟩, 0⟩, after) ∧
      (load ⟨2⟩ "A").outcome last = (.ok ⟨⟨1⟩, 0⟩, last) := by
  intro definitions first second third defined area after last
  have reachable : area.Reachable :=
    .load _ _ (.addDefinition _ _ (.addDefinition _ _ (.addLoader _ _ _ (by simp)
      (.addLoader _ _ _ (by rintro _ ⟨⟩; decide) (.addLoader _ _ _ (by simp) (.initial _))))))
  have answer : ((load ⟨2⟩ "A").outcome area).1.toOption = some ⟨⟨1⟩, 0⟩ := by decide +kernel
  have ended : (load ⟨2⟩ "A").outcome area = (.ok ⟨⟨1⟩, 0⟩, after) := by
    refine Prod.ext ?_ rfl
    cases result : ((load ⟨2⟩ "A").outcome area).1 with
    | error fault =>
      rw [result] at answer
      cases answer
    | ok found =>
      rw [result] at answer
      cases answer
      rfl
  have later : after.BecomesLater last :=
    .tail (.single (.addDefinition _ _)) (.addDefinition _ _)
  exact ⟨reachable, by decide +kernel, ended,
    reachable.classes_identified.2.2.2 _ _ _ _ _ ended later⟩

end Area
end ClassRuntime

import ClassRuntime.Proofs.Machine.Arrays
import ClassRuntime.Proofs.Machine.Failures

namespace ClassRuntime

/-!
# Arrays and what their loaders see

A loader reads the name of the component off the name of the array and loads it.  The
array is then looked up under the same name once more, this time at the loader that has
defined the component.  What is found there could in principle be an array of another
class of this name.

It is not, because an answer under the name of an array is always accompanied by one
under the name of the component, given by the same loader, and both classes live in one
place.  There a class has its name to itself.  New definitions do not touch answers, so
it does not matter when they are given.
-/

namespace Area

variable {ι : Type} {area : Area ι} {id : LoaderId} {name : ClassName} {array : ClassId}

theorem WellFormed.hasComponent_of_isArray (fine : area.WellFormed) {type : TypeDescriptor}
    (typed : area.type? array = some type) (named : type.name.isArray) :
    ∃ component, area.HasComponent array component := by
  cases fine.linked typed with
  | primitive primitive =>
    exact absurd named (ClassName.not_isArray_of_isPrimitive (ClassName.isPrimitive_keyword _))
  | array => exact ⟨_, _, typed, rfl⟩
  | declared ordinary => exact absurd named ordinary

/-- An answer under the name of an array is an array of the answer under the name of its
component. -/
theorem Rested.component_answered (rested : area.Rested) (isArray : name.isArray)
    (answered : area.lookup? id name = some array) :
    ∃ component element, name.component? = some element.name ∧
      area.type? component = some element ∧ area.HasComponent array component ∧
      area.lookup? id element.name = some component ∧ array.loader = component.loader := by
  have fine := rested.fine
  rcases (fine.answered answered).2 with ⟨type, typed, rfl⟩
  rcases fine.hasComponent_of_isArray typed isArray with ⟨component, has⟩
  rcases fine.array_of_component has with ⟨other, element, typedOther, _, behind, home, read⟩
  rw [typed] at typedOther
  cases typedOther
  rcases rested.homed read answered with ⟨seen, answeredSeen, together⟩
  -- The class that the loader sees and the component bear one name in one place.
  rcases (fine.answered answeredSeen).2 with ⟨part, typedPart, named⟩
  have same : seen = component :=
    fine.unique typedPart behind (together.symm.trans home.symm) named
  subst same
  exact ⟨seen, element, read, behind, has, answeredSeen, together⟩

end Area

namespace Machine

variable {ι : Type} {machine after : Machine ι}

/-- In every reachable machine whose loaders were added after their parents, a loader that
finds an array finds its component under the name that it reads off, without any further
change, and the array lives with its component.  An array object is one of the very class
for which it is made, whatever other classes bear the name of this one.  Of classes whose
arrays have no name that can be read, such as `void` and a class with an empty name, no
array object is made. -/
theorem Reachable.arrays_follow_components (reachable : machine.Reachable)
    (issued : machine.area.ParentsFirst) :
    (∀ id name array after, name.isArray →
      (load id name).outcome machine = (.ok array, after) →
      ∃ part component, name.component? = some part ∧
        (load id part).outcome after = (.ok component, after) ∧
        after.area.HasComponent array component ∧ array.loader = component.loader) ∧
    ∀ component elements object after,
      (makeArray component elements).outcome machine = (.ok object, after) →
      after.area.HasComponent object.type component ∧ object.elements? = some elements := by
  have rested := (reachable.area issued).rested
  constructor
  · intro id name array after isArray loads
    have loaded := rested.load id name
    rw [area_load_of_load loads] at loaded
    have answered := Area.lookup?_of_load (area_load_of_load loads)
    rcases loaded.component_answered isArray answered with
      ⟨component, element, read, _, has, answeredPart, together⟩
    exact ⟨element.name, component, read, outcome_load_answered answeredPart, has, together⟩
  · intro component elements object after made
    rcases load_of_makeArray made with ⟨filled, element, found, loads⟩
    have loaded := rested.load component.loader element.name.arrayOf
    have typed := (Area.retains_load component.loader element.name.arrayOf machine.area).type
      (Area.type?_of_class? found)
    rw [loads] at loaded typed
    rcases loaded.component_answered (ClassName.isArray_arrayOf _) (Area.lookup?_of_load loads) with
      ⟨part, other, read, _, has, answeredPart, _⟩
    -- The class has its name to itself in its own loader.
    rw [ClassName.eq_of_component?_arrayOf read, loaded.fine.recorded typed] at answeredPart
    cases answeredPart
    exact ⟨has, filled⟩

/-- The case of two loaders that each define a class of one name. -/
theorem arrays_follow_components_siblings :
    let definitions : List (ClassDefinition Unit) :=
      [{ ClassDefinition.ordinary ClassName.object with superName := none },
        .interface ClassName.cloneable, .interface ClassName.serializable]
    let child (machine : Machine Unit) :=
      ((onArea (Area.addLoader "child" .bootPath none)).outcome machine).2
    let define (id : LoaderId) (machine : Machine Unit) :=
      ((onArea (Area.addDefinition id (.ordinary "A"))).outcome machine).2
    let machine := define ⟨2⟩ (define ⟨1⟩ (child (child (initial 0 definitions))))
    let first := ((load ⟨1⟩ "[[LA;").outcome machine).2
    let second := ((load ⟨2⟩ "A").outcome first).2
    machine.Reachable ∧ machine.area.ParentsFirst ∧
      ((load ⟨1⟩ "[[LA;").outcome machine).1 = .ok ⟨⟨1⟩, 2⟩ ∧
      (load ⟨1⟩ "[LA;").outcome first = (.ok ⟨⟨1⟩, 1⟩, first) ∧
      first.area.HasComponent ⟨⟨1⟩, 2⟩ ⟨⟨1⟩, 1⟩ ∧
      ∃ object after, (makeArray ⟨⟨2⟩, 0⟩ [none]).outcome second = (.ok object, after) ∧
        after.area.HasComponent object.type ⟨⟨2⟩, 0⟩ ∧ object.elements? = some [none] := by
  intro definitions child define machine first second
  have adding (id : LoaderId) {machine : Machine Unit} (reachable : machine.Reachable) :
      (define id machine).Reachable :=
    reachable.perform (.addDefinition id (.ordinary "A"))
  have growing {machine : Machine Unit} (reachable : machine.Reachable) :
      (child machine).Reachable :=
    reachable.perform (.addLoader "child" .bootPath none)
  have reachable : machine.Reachable :=
    adding _ (adding _ (growing (growing (reachable_initial 0 definitions))))
  have issued : machine.area.ParentsFirst := by decide +kernel
  have loads : (load ⟨1⟩ "[[LA;").outcome machine = (.ok ⟨⟨1⟩, 2⟩, first) :=
    Prod.ext (by decide +kernel) rfl
  rcases (reachable.arrays_follow_components issued).1 ⟨1⟩ "[[LA;" _ _ (by decide) loads with
    ⟨part, component, read, seen, has, _⟩
  have part_eq : part = "[LA;" := Option.some.inj (read.symm.trans (by decide))
  subst part_eq
  have known : ((load ⟨1⟩ "[LA;").outcome first).1 = .ok ⟨⟨1⟩, 1⟩ := by decide +kernel
  rw [seen] at known
  cases known
  have reachableSecond : second.Reachable :=
    (reachable.perform (.load ⟨1⟩ "[[LA;")).perform (.load ⟨2⟩ "A")
  have issuedSecond : second.area.ParentsFirst := by decide +kernel
  have granted : ((makeArray ⟨⟨2⟩, 0⟩ [none]).outcome second).1.toOption.isSome := by
    decide +kernel
  rcases made : (makeArray ⟨⟨2⟩, 0⟩ [none]).outcome second with ⟨fault | object, after⟩
  · rw [made] at granted
    cases granted
  · have filled := (reachableSecond.arrays_follow_components issuedSecond).2 _ _ _ _ made
    exact ⟨reachable, issued, congrArg Prod.fst loads, seen, has, object, after, rfl, filled⟩

end Machine
end ClassRuntime

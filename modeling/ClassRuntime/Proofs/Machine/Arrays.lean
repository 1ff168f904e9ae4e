import ClassRuntime.Loader.BootPath
import ClassRuntime.Proofs.ClassName.Array
import ClassRuntime.Proofs.Machine.Mirrors
import ClassRuntime.Proofs.Machine.Safety

namespace ClassRuntime

/-!
# Array classes and their components

A loader knows classes by their names, and what an array class is an array of is
read off its name.  An array class is canonical if its name is the one that is
written for its component.  There is one canonical array class for a component at
most, and it is the one that is found when an array of the component is made.

Not all array classes are canonical.  A name that spells out a primitive type or an
array is read as well, and the loader makes another class for it.  This class has
the same component, but arrays of the component are not its instances.
-/

namespace Area

variable {ι : Type} {area : Area ι} {id component : ClassId}

/-- The name of the class is the one that is written for its component. -/
def IsCanonical (area : Area ι) (id : ClassId) : Prop :=
  ∃ type ∈ area.type? id, ∃ component ∈ type.component, ∃ element ∈ area.type? component,
    type.name = element.name.arrayOf

instance (area : Area ι) (id : ClassId) : Decidable (area.IsCanonical id) :=
  inferInstanceAs (Decidable (∃ type ∈ area.type? id, ∃ component ∈ type.component,
    ∃ element ∈ area.type? component, type.name = element.name.arrayOf))

instance (area : Area ι) (id component : ClassId) : Decidable (area.HasComponent id component) :=
  inferInstanceAs (Decidable (∃ type ∈ area.type? id, type.component = some component))

/-- An array class with its component. -/
theorem WellFormed.array_of_component (fine : area.WellFormed)
    (has : area.HasComponent id component) :
    ∃ type element, area.type? id = some type ∧ type.component = some component ∧
      area.type? component = some element ∧ component.loader = id.loader ∧
      type.name.component? = some element.name := by
  rcases has with ⟨type, typed, below⟩
  cases fine.linked typed with
  | primitive => cases below
  | array named home behind =>
    cases below
    exact ⟨_, _, typed, rfl, behind, home, named⟩
  | declared _ _ none =>
    rw [below] at none
    cases none

theorem isCanonical_iff {type element : TypeDescriptor} (typed : area.type? id = some type)
    (below : type.component = some component) (behind : area.type? component = some element) :
    area.IsCanonical id ↔ type.name = element.name.arrayOf := by
  constructor
  · rintro ⟨other, typedOther, part, belowOther, otherElement, behindOther, written⟩
    rw [typed] at typedOther
    cases typedOther
    rw [below] at belowOther
    cases belowOther
    rw [behind] at behindOther
    cases behindOther
    exact written
  · intro written
    exact ⟨type, typed, component, below, element, behind, written⟩

/-- Two array classes of one component are the same if both are canonical, and also
if neither is. -/
theorem WellFormed.array_unique (fine : area.WellFormed) {first second : ClassId}
    (has : area.HasComponent first component) (hasOther : area.HasComponent second component)
    (alike : area.IsCanonical first ↔ area.IsCanonical second) : first = second := by
  rcases fine.array_of_component has with ⟨type, element, typed, below, behind, home, read⟩
  rcases fine.array_of_component hasOther with
    ⟨other, sameElement, typedOther, belowOther, same, homeOther, readOther⟩
  rw [behind] at same
  cases same
  rw [isCanonical_iff typed below behind, isCanonical_iff typedOther belowOther behind] at alike
  refine fine.unique typed typedOther (home.symm.trans homeOther) ?_
  rcases ClassName.spelled_of_component? read with written | ⟨_, spelled⟩
  · exact written.trans (alike.1 written).symm
  · rcases ClassName.spelled_of_component? readOther with written | ⟨_, spelledOther⟩
    · exact (alike.2 written).trans written.symm
    · exact spelled.trans spelledOther.symm

end Area

namespace Machine

variable {ι : Type} {machine after : Machine ι} {id component : ClassId}

/-- If the loader that defined the component knows the array class, nothing is loaded
to make an array. -/
theorem outcome_makeArray {element : LoadedClass ι} {found : ClassId}
    (behind : machine.area.class? component = some element)
    (answered : machine.area.lookup? component.loader element.name.arrayOf = some found)
    (elements : List Reference) :
    (makeArray component elements).outcome machine =
      (.ok (.array ⟨machine.number, machine.nextObject⟩ found elements),
        { machine with nextObject := machine.nextObject + 1 }) := by
  simp only [makeArray, Action.outcome_bind, outcome_getClass, Area.loadedClass_eq_ok behind,
    outcome_load_answered answered]
  rfl

theorem lookup?_of_makeArray {element : LoadedClass ι} {elements : List Reference} {array : Object}
    (behind : machine.area.class? component = some element)
    (made : (makeArray component elements).outcome machine = (.ok array, after)) :
    after.area.lookup? component.loader element.name.arrayOf = some array.type := by
  rcases load_of_makeArray made with ⟨_, found, place, loads⟩
  rw [behind] at place
  cases place
  exact Area.lookup?_of_load loads

theorem mirrorOf_of_componentType {reference : Reference}
    (has : machine.area.HasComponent id component)
    (answered : (componentType id).outcome machine = (.ok reference, after)) :
    ∃ mirror, reference = some mirror ∧
      (mirrorOf component).outcome machine = (.ok mirror, after) := by
  rcases has with ⟨type, typed, below⟩
  rcases Area.class?_of_type? typed with ⟨loaded, found, rfl⟩
  rcases found_of_getClass answered with ⟨_, place, rest⟩
  rw [found] at place
  cases place
  rw [below] at rest
  change (some <$> mirrorOf component).outcome machine = _ at rest
  rw [map_eq_pure_bind] at rest
  rcases Action.bind_ok rest with ⟨mirror, _, made, given⟩
  cases given
  exact ⟨mirror, rfl, made⟩

/-- In every reachable machine whose loaders were added after their parents, the name
of an array class has one of two forms, of which the second occurs for primitive types
and for arrays alone.  A component has at most one array class of each form, and
`void` has none of the first.  From an array class of the first form the way to its
component and from there to an array leads back to the class, and from one of the
second it leads elsewhere or to a failure. -/
theorem Reachable.arrays_spelled (reachable : machine.Reachable)
    (issued : machine.area.ParentsFirst) :
    (∀ id component, machine.area.HasComponent id component → ∃ loaded element,
      machine.area.class? id = some loaded ∧ machine.area.class? component = some element ∧
      component.loader = id.loader ∧ (loaded.name = element.name.arrayOf ∨
        (element.name.isPrimitive ∨ element.name.isArray) ∧
          loaded.name = element.name.spelledOut)) ∧
    (∀ first second component, machine.area.HasComponent first component →
      machine.area.HasComponent second component →
      (machine.area.IsCanonical first ↔ machine.area.IsCanonical second) → first = second) ∧
    (∀ id component element, machine.area.HasComponent id component →
      machine.area.class? component = some element → element.name = "void" →
      ¬ machine.area.IsCanonical id) ∧
    ∀ id component reference middle, machine.area.HasComponent id component →
      (componentType id).outcome machine = (.ok reference, middle) →
      ∃ mirror, reference = some mirror ∧ mirror.mirrored? = some component ∧
        ∀ elements, (machine.area.IsCanonical id → ∃ array last,
            (makeArray component elements).outcome middle = (.ok array, last) ∧ array.type = id) ∧
          (¬ machine.area.IsCanonical id → ∀ array last,
            (makeArray component elements).outcome middle = (.ok array, last) →
              array.type ≠ id) := by
  have fine := reachable.wellFormed issued
  refine ⟨?_, fun first second component => fine.array_unique, ?_, ?_⟩
  · intro id component has
    rcases fine.array_of_component has with ⟨type, element, typed, _, behind, home, read⟩
    rcases Area.class?_of_type? typed with ⟨loaded, found, rfl⟩
    rcases Area.class?_of_type? behind with ⟨part, foundPart, rfl⟩
    exact ⟨loaded, part, found, foundPart, home, ClassName.spelled_of_component? read⟩
  · intro id component element has found named canonical
    rcases fine.array_of_component has with ⟨type, part, typed, below, behind, _, read⟩
    rw [Area.type?_of_class? found] at behind
    cases behind
    rw [(Area.isCanonical_iff typed below (Area.type?_of_class? found)).1 canonical, named] at read
    rw [show "void" = Primitive.void.keyword from rfl, ClassName.component?_arrayOf_void] at read
    cases read
  · intro id component reference middle has answered
    rcases fine.array_of_component has with ⟨type, element, typed, below, behind, home, _⟩
    rcases Area.class?_of_type? behind with ⟨part, foundPart, rfl⟩
    have known : (machine.area.class? id).isSome := Area.isSome_class?_iff.2 ⟨type, typed⟩
    have upheld := (sound_componentType fine known).related
    rw [answered] at upheld
    have fineNow := upheld.wellFormed fine
    have typedNow := Area.Retains.type upheld.retains typed
    rcases Area.class?_of_type? (Area.Retains.type upheld.retains (Area.type?_of_class? foundPart))
      with ⟨partNow, foundNow, same⟩
    rcases mirrorOf_of_componentType has answered with ⟨mirror, rfl, made⟩
    refine ⟨mirror, rfl, reachable.mirrored?_of_mirrorOf made, fun elements => ⟨?_, ?_⟩⟩
    · intro canonical
      have written := (Area.isCanonical_iff typed below behind).1 canonical
      have recorded := fineNow.recorded typedNow
      rw [written, ← home, ← same] at recorded
      exact ⟨_, _, outcome_makeArray foundNow recorded elements, rfl⟩
    · rintro other array last ends rfl
      -- The class of the new array has the name that is written, and a class keeps its name.
      have knownNow : (middle.area.class? component).isSome :=
        Option.isSome_iff_exists.2 ⟨partNow, foundNow⟩
      have upheldLast := (sound_makeArray fineNow knownNow elements).related
      rw [ends] at upheldLast
      rcases ((upheldLast.wellFormed fineNow).answered (lookup?_of_makeArray foundNow ends)).2 with
        ⟨typeLast, typedLast, written⟩
      rw [Area.Retains.type upheldLast.retains typedNow] at typedLast
      cases typedLast
      rw [same] at written
      exact other ((Area.isCanonical_iff typed below behind).2 written)

/-- The case of an array of integers that is loaded under both of its names. -/
theorem arrays_spelled_int :
    let definitions : List (ClassDefinition Unit) :=
      [{ ClassDefinition.ordinary ClassName.object with superName := none },
        .interface ClassName.cloneable, .interface ClassName.serializable,
        .ordinary ClassName.mirror]
    let once := ((load .bootstrap "[I").outcome (initial 0 definitions)).2
    let machine := ((load .bootstrap "[Lint;").outcome once).2
    let int : ClassId := ⟨.bootstrap, 5⟩
    let canonical : ClassId := ⟨.bootstrap, 12⟩
    let other : ClassId := ⟨.bootstrap, 13⟩
    machine.Reachable ∧ machine.area.ParentsFirst ∧ machine.area.HasComponent canonical int ∧
      machine.area.HasComponent other int ∧
      ∃ mirror middle array last, mirror.mirrored? = some int ∧
        (componentType canonical).outcome machine = (.ok (some mirror), middle) ∧
        (makeArray int []).outcome middle = (.ok array, last) ∧ array.type = canonical := by
  intro definitions once machine int canonical other
  have reachable : machine.Reachable :=
    ((reachable_initial 0 definitions).perform (.load .bootstrap "[I")).perform
      (.load .bootstrap "[Lint;")
  have issued : machine.area.ParentsFirst := by decide +kernel
  have has : machine.area.HasComponent canonical int := by decide +kernel
  have written : machine.area.IsCanonical canonical := by decide +kernel
  have granted : ((componentType canonical).outcome machine).1.toOption.isSome := by
    decide +kernel
  have spelled := reachable.arrays_spelled issued
  rcases ended : (componentType canonical).outcome machine with ⟨fault | reference, middle⟩
  · rw [ended] at granted
    cases granted
  · rcases spelled.2.2.2 canonical int reference middle has ended with
      ⟨mirror, rfl, own, leads⟩
    rcases (leads []).1 written with ⟨array, last, made, back⟩
    exact ⟨reachable, issued, has, by decide +kernel, mirror, middle, array, last, own,
      rfl, made, back⟩

/-- The second name of the array of integers gives a second class, whose name is not
the one that is written. -/
theorem int_arrays_differ :
    let definitions : List (ClassDefinition Unit) := BootPath.definitions
    let once := ((load .bootstrap "[I").outcome (initial 0 definitions)).2
    let machine := ((load .bootstrap "[Lint;").outcome once).2
    let int : ClassId := ⟨.bootstrap, 5⟩
    machine.Reachable ∧ machine.area.ParentsFirst ∧ ∃ first second, first ≠ second ∧
      machine.area.HasComponent first int ∧ machine.area.HasComponent second int ∧
      ¬ machine.area.IsCanonical second := by
  intro definitions once machine int
  have reachable : machine.Reachable :=
    ((reachable_initial 0 definitions).perform (.load .bootstrap "[I")).perform
      (.load .bootstrap "[Lint;")
  have differ : machine.area.ParentsFirst ∧ machine.area.HasComponent ⟨.bootstrap, 12⟩ int ∧
      machine.area.HasComponent ⟨.bootstrap, 13⟩ int ∧
      ¬ machine.area.IsCanonical ⟨.bootstrap, 13⟩ := by
    decide +kernel
  exact ⟨reachable, differ.1, ⟨.bootstrap, 12⟩, ⟨.bootstrap, 13⟩, by decide, differ.2⟩

end Machine
end ClassRuntime

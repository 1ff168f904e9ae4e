import ClassRuntime.Proofs.Class.Subtyping
import ClassRuntime.Proofs.Loader.DescriptorGraph

namespace ClassRuntime

/-!
# The hierarchy of an area

The classes of an area form a graph in which assignability is subtyping, as
soon as the root has no supertypes of its own.  Nothing prevents a definition
of the root from having some.  What else is needed holds in every reachable
area: supertypes are no arrays, and all arrays rest on the same three classes
of the bootstrap loader, since a loader has only one class of a name.
-/

namespace Area

variable {ι : Type} {area : Area ι}

/-- The root, if it is there, is an ordinary class without supertypes. -/
def Rooted (area : Area ι) : Prop :=
  ∀ root loaded, area.class? root = some loaded → root.loader = .bootstrap →
    loaded.name = .object →
      loaded.kind = .ordinary ∧ loaded.superclass = none ∧ loaded.interfaces = []

/-! ## The graph of an area -/

theorem graph_type_eq_ok {id : ClassId} {type : TypeDescriptor} :
    area.graph.type id = .ok type ↔ area.type? id = some type := by
  cases found : area.class? id with
  | some loaded =>
    rw [type?, found]
    simp only [graph, loadedClass_eq_ok found, Except.map, Option.map_some, Except.ok.injEq,
      Option.some.injEq]
  | none =>
    rw [type?, found]
    refine iff_of_false (fun typed => ?_) (by simp)
    cases read : area.loadedClass id with
    | ok loaded =>
      rw [class?_of_loadedClass read] at found
      cases found
    | error fault => simp only [graph, read, Except.map, reduceCtorEq] at typed

theorem mem_classIds {id : ClassId} : id ∈ area.classIds ↔ (area.class? id).isSome := by
  rcases id with ⟨⟨number⟩, index⟩
  simp only [classIds, List.mem_flatMap, List.mem_map, List.mem_range, ClassId.mk.injEq,
    LoaderId.mk.injEq, List.mem_zipIdx_iff_getElem?, Array.getElem?_toList, class?, loader?]
  constructor
  · rintro ⟨⟨loader, home⟩, known, place, bounded, rfl, rfl⟩
    rw [known, Option.bind_some, Array.getElem?_eq_getElem bounded]
    rfl
  · intro found
    rcases Option.isSome_iff_exists.1 found with ⟨loaded, found⟩
    rcases Option.bind_eq_some_iff.1 found with ⟨loader, known, place⟩
    rcases Array.getElem?_eq_some_iff.1 place with ⟨bounded, _⟩
    exact ⟨(loader, number), known, index, bounded, rfl, rfl⟩

theorem isSome_class?_iff {id : ClassId} :
    (area.class? id).isSome ↔ ∃ type, area.type? id = some type := by
  rw [type?, ← Option.isSome_iff_exists, Option.isSome_map]

/-! ## The graph is orderly -/

/-- A class of a name that is neither an array name nor a keyword has a
definition, and is neither an array nor primitive. -/
theorem IsBoot.kind (fine : area.WellFormed) {id : ClassId} {name : ClassName}
    (boot : area.IsBoot id name) (notArray : ¬ name.isArray) (notPrimitive : ¬ name.isPrimitive) :
    ∃ type, area.type? id = some type ∧ type.kind ≠ .array ∧ type.kind ≠ .primitive := by
  rcases boot with ⟨_, type, typed, rfl⟩
  refine ⟨type, typed, ?_⟩
  cases fine.linked typed with
  | primitive primitive home =>
    exact absurd (ClassName.isPrimitive_keyword primitive) notPrimitive
  | array named => exact absurd (ClassName.isArray_of_component? named) notArray
  | declared _ kind =>
    rcases kind with ordinary | ⟨isInterface, _⟩
    · rw [ordinary]
      exact ⟨by simp, by simp⟩
    · rw [isInterface]
      exact ⟨by simp, by simp⟩

/-- The classes of the bootstrap loader are known by their names. -/
theorem IsBoot.unique (fine : area.WellFormed) {first second : ClassId} {name : ClassName}
    (boot : area.IsBoot first name) (other : area.IsBoot second name) : first = second := by
  rcases boot with ⟨home, type, typed, named⟩
  rcases other with ⟨homeOther, typeOther, typedOther, namedOther⟩
  exact fine.unique typed typedOther (home.trans homeOther.symm) (named.trans namedOther.symm)

/-- The supertypes of an array are the three classes of the bootstrap loader. -/
theorem Linked.array_supertypes {id : ClassId} {type : TypeDescriptor}
    (linked : area.Linked id type) (isArray : type.kind = .array) :
    ∃ root cloneable serializable, type.supertypes = [root, cloneable, serializable] ∧
      area.IsBoot root .object ∧ area.IsBoot cloneable .cloneable ∧
      area.IsBoot serializable .serializable := by
  cases linked with
  | primitive => cases isArray
  | array named home behind earlier isRoot isCloneable isSerializable =>
    exact ⟨_, _, _, rfl, isRoot, isCloneable, isSerializable⟩
  | declared _ kind =>
    rcases kind with other | ⟨other, _⟩ <;> rw [isArray] at other <;> cases other

theorem WellFormed.inherited (fine : area.WellFormed) {id other : ClassId} {type : TypeDescriptor}
    (typed : area.type? id = some type) (member : other ∈ type.supertypes) :
    ∃ inherited, area.type? other = some inherited ∧ inherited.kind ≠ .array ∧
      inherited.kind ≠ .primitive := by
  cases fine.linked typed with
  | primitive => cases member
  | array named home behind earlier isRoot isCloneable isSerializable =>
    simp only [TypeDescriptor.supertypes, arrayType, Option.toList_some, List.cons_append,
      List.nil_append, List.mem_cons, List.not_mem_nil, or_false] at member
    rcases member with rfl | rfl | rfl
    · exact isRoot.kind fine (by decide) (by decide)
    · exact isCloneable.kind fine (by decide) (by decide)
    · exact isSerializable.kind fine (by decide) (by decide)
  | declared named kind component superclass interfaces =>
    rcases List.mem_append.1 member with extended | implemented
    · rcases (superclass other (Option.mem_toList.1 extended)).2 with ⟨inherited, there, kinded⟩
      exact ⟨inherited, there, by rw [kinded]; simp, by rw [kinded]; simp⟩
    · rcases (interfaces other implemented).2 with ⟨inherited, there, kinded⟩
      exact ⟨inherited, there, by rw [kinded]; simp, by rw [kinded]; simp⟩

theorem WellFormed.orderly (fine : area.WellFormed) (rooted : area.Rooted) :
    area.graph.Orderly where
  listed {id} := by
    change id ∈ area.classIds ↔ _
    simp only [graph_type_eq_ok]
    exact mem_classIds.trans isSome_class?_iff
  inherited {id type other} typed member := by
    simp only [graph_type_eq_ok] at typed ⊢
    exact fine.inherited typed member
  primitive {id type} typed primitive := by
    have consistent := fine.consistent (graph_type_eq_ok.1 typed)
    rw [TypeDescriptor.supertypes, consistent.rootless (Or.inr primitive),
      consistent.bare primitive]
    rfl
  component {id type} typed := (fine.linked (graph_type_eq_ok.1 typed)).component_iff
  earlier {id type component} typed has := by
    have member : component ∈ type.references := by
      rw [TypeDescriptor.references, has]
      exact List.mem_append_right _ List.mem_cons_self
    have earlier := (fine.linked (graph_type_eq_ok.1 typed)).references_earlier component member
    refine ⟨earlier.1, ?_⟩
    simp only [graph_type_eq_ok]
    exact isSome_class?_iff.1 earlier.2
  arrays {first second type other} typed typedOther isArray otherArray := by
    rcases (fine.linked (graph_type_eq_ok.1 typed)).array_supertypes isArray with
      ⟨root, cloneable, serializable, equal, isRoot, isCloneable, isSerializable⟩
    rcases (fine.linked (graph_type_eq_ok.1 typedOther)).array_supertypes otherArray with
      ⟨_, _, _, equalOther, isRootOther, isCloneableOther, isSerializableOther⟩
    rw [equal, equalOther, isRoot.unique fine isRootOther,
      isCloneable.unique fine isCloneableOther, isSerializable.unique fine isSerializableOther]
  root {id type} typed home named := by
    rcases class?_of_type? (graph_type_eq_ok.1 typed) with ⟨loaded, found, rfl⟩
    rcases rooted id loaded found home named with ⟨ordinary, noSuperclass, noInterfaces⟩
    refine ⟨ordinary, ?_⟩
    rw [TypeDescriptor.supertypes, noSuperclass, noInterfaces]
    rfl

/-! ## Assignability is subtyping -/

/-- In a reachable area with a proper root, assignability comes to an answer for
all pairs of classes.  It is subtyping, and therefore transitive. -/
theorem Reachable.assignable_iff_subtype (reachable : area.Reachable) (rooted : area.Rooted) :
    (∀ source target, (area.class? source).isSome → (area.class? target).isSome →
      ∃ answer, area.graph.assignable source target = .ok answer ∧
        (answer = true ↔ area.graph.Subtype source target)) ∧
      ∀ first second third, (area.class? first).isSome → (area.class? second).isSome →
        (area.class? third).isSome → area.graph.assignable first second = .ok true →
          area.graph.assignable second third = .ok true →
            area.graph.assignable first third = .ok true := by
  have orderly := reachable.wellFormed.orderly rooted
  have decided (source target : ClassId) (known : (area.class? source).isSome)
      (knownTarget : (area.class? target).isSome) :
      ∃ answer, area.graph.assignable source target = .ok answer ∧
        (answer = true ↔ area.graph.Subtype source target) := by
    rcases isSome_class?_iff.1 known with ⟨sourceType, typed⟩
    rcases isSome_class?_iff.1 knownTarget with ⟨targetType, typedTarget⟩
    exact ClassGraph.assignable_spec orderly (graph_type_eq_ok.2 typed)
      (graph_type_eq_ok.2 typedTarget)
  refine ⟨decided, fun first second third knownFirst knownSecond knownThird before after => ?_⟩
  have subtype {source target : ClassId} (known : (area.class? source).isSome)
      (knownTarget : (area.class? target).isSome)
      (accepted : area.graph.assignable source target = .ok true) :
      area.graph.Subtype source target := by
    rcases decided source target known knownTarget with ⟨answer, ended, correct⟩
    rw [accepted] at ended
    cases ended
    exact correct.1 rfl
  rcases decided first third knownFirst knownThird with ⟨answer, ended, correct⟩
  rw [ended, correct.2 ((subtype knownFirst knownSecond before).trans
    (subtype knownSecond knownThird after))]

theorem rooted_of_classIds (checked : ∀ root ∈ area.classIds, ∀ loaded ∈ area.class? root,
    root.loader = .bootstrap → loaded.name = .object →
      loaded.kind = .ordinary ∧ loaded.superclass = none ∧ loaded.interfaces = []) :
    area.Rooted :=
  fun root loaded found => checked root
    (mem_classIds.2 (Option.isSome_iff_exists.2 ⟨loaded, found⟩)) loaded found

/-- The case of two arrays of arrays. -/
theorem assignable_iff_subtype_arrays :
    let definitions : List (ClassDefinition Unit) :=
      [{ ClassDefinition.ordinary ClassName.object with superName := none },
        .interface ClassName.cloneable, .interface ClassName.serializable, .ordinary "Number",
        (ClassDefinition.ordinary "Integer").extending "Number"]
    let area := ((load .bootstrap "[[LNumber;").outcome
      ((load .bootstrap "[[LInteger;").outcome (initial definitions)).2).2
    let integers : ClassId := ⟨.bootstrap, 15⟩
    let numbers : ClassId := ⟨.bootstrap, 17⟩
    area.Rooted ∧ area.graph.Subtype integers numbers ∧ ¬ area.graph.Subtype numbers integers := by
  intro definitions area integers numbers
  have rooted : area.Rooted := rooted_of_classIds (by decide +kernel)
  have decided := (Reachable.assignable_iff_subtype (.load _ _ (.load _ _ (.initial _))) rooted).1
  refine ⟨rooted, ?_, ?_⟩
  · rcases decided integers numbers (by decide +kernel) (by decide +kernel) with
      ⟨answer, ended, correct⟩
    have accepted : (area.graph.assignable integers numbers).toOption = some true := by
      decide +kernel
    rw [ended] at accepted
    exact correct.1 (Option.some.inj accepted)
  · rcases decided numbers integers (by decide +kernel) (by decide +kernel) with
      ⟨answer, ended, correct⟩
    have refused : (area.graph.assignable numbers integers).toOption = some false := by
      decide +kernel
    rw [ended] at refused
    exact fun below => Bool.false_ne_true ((Option.some.inj refused).symm.trans (correct.2 below))

end Area
end ClassRuntime

import ClassRuntime.Proofs.Loader.Unused

namespace ClassRuntime

/-!
# Loading does not depend on history

Two areas have the same loaders, and a loader and its ancestors have the same
definitions in both.  Other loaders may define whatever they like.  After any
loads in either area, a load through the loader comes to the same outcome: the
classes that are found agree in all that does not depend on where they are
kept, or the errors are the same.

Both answers are that of resolution, which does not leave the ancestors.  The
descriptors are compared by going back from a class to the earlier classes on
which it rests.
-/

namespace Area

variable {ι : Type} {base other first second : Area ι}

/-- Two classes that are known by the same name at the same defining loader. -/
def SameName (first second : Area ι) (id other : ClassId) : Prop :=
  id.loader = other.loader ∧ ∃ type otherType, first.type? id = some type ∧
    second.type? other = some otherType ∧ type.name = otherType.name

/-- Two descriptors that agree, with classes compared by loader and name. -/
structure Alike (first second : Area ι) (type other : TypeDescriptor) : Prop where
  name : type.name = other.name
  kind : type.kind = other.kind
  flags : type.flags = other.flags
  superclass : Option.Rel (first.SameName second) type.superclass other.superclass
  interfaces : List.Forall₂ (first.SameName second) type.interfaces other.interfaces
  component : Option.Rel (first.SameName second) type.component other.component
  source : type.source = other.source
  enclosure : type.enclosure = other.enclosure

/-- The same outcome of a load in two areas. -/
inductive SameOutcome : Except Fault ClassId × Area ι → Except Fault ClassId × Area ι → Prop
  | found {first second : Area ι} {id other : ClassId} {type otherType : TypeDescriptor} :
      id.loader = other.loader → first.type? id = some type →
        second.type? other = some otherType → first.Alike second type otherType →
          SameOutcome (.ok id, first) (.ok other, second)
  | failed {first second : Area ι} (cause : RuntimeError) :
      SameOutcome (.error (.error cause), first) (.error (.error cause), second)

/-- The same loaders, whatever they define. -/
def SameLoaders (first second : Area ι) : Prop :=
  ∀ id, (first.loader? id).map (fun loader => (loader.name, loader.source, loader.parent)) =
    (second.loader? id).map fun loader => (loader.name, loader.source, loader.parent)

namespace SameLoaders

theorem isSome (same : first.SameLoaders second) (id : LoaderId) :
    (second.loader? id).isSome = (first.loader? id).isSome := by
  rw [← Option.isSome_map (x := second.loader? id), ← same id, Option.isSome_map]

theorem parent? (same : first.SameLoaders second) (id : LoaderId) :
    second.parent? id = first.parent? id := by
  have equal := congrArg (fun found => found.bind fun part => part.2.2) (same id)
  simp only [Option.bind_map] at equal
  exact equal.symm

theorem source? (same : first.SameLoaders second) (id : LoaderId) :
    second.source? id = first.source? id := by
  have equal := congrArg (fun found => found.bind fun part => some part.2.1) (same id)
  simp only [Option.bind_map] at equal
  exact equal.symm

theorem symm (same : first.SameLoaders second) : second.SameLoaders first :=
  fun id => (same id).symm

theorem trans (same : first.SameLoaders second) (further : second.SameLoaders base) :
    first.SameLoaders base :=
  fun id => (same id).trans (further id)

/-- A definition makes no difference to the loaders. -/
theorem addDefinition (id : LoaderId) (definition : ClassDefinition ι) (area : Area ι) :
    area.SameLoaders ((addDefinition id definition).outcome area).2 := by
  intro other
  rw [outcome_addDefinition, loader?_updateLoader]
  split
  · rw [Option.map_map]
    rfl
  · rfl

end SameLoaders

/-! ## Descriptors that agree -/

theorem Linked.eq_primitiveType {area : Area ι} {id : ClassId} {type : TypeDescriptor}
    (linked : area.Linked id type) (primitive : type.kind = .primitive) :
    ∃ here, type = Loader.primitiveType here := by
  cases linked with
  | primitive here => exact ⟨here, rfl⟩
  | array => cases primitive
  | declared _ kind =>
    rcases kind with other | ⟨other, _⟩ <;> rw [primitive] at other <;> cases other

theorem same_boot {id otherId : ClassId} {name : ClassName} (boot : first.IsBoot id name)
    (otherBoot : second.IsBoot otherId name) : first.SameName second id otherId := by
  rcases boot with ⟨home, type, typed, named⟩
  rcases otherBoot with ⟨otherHome, otherType, otherTyped, otherNamed⟩
  exact ⟨home.trans otherHome.symm, type, otherType, typed, otherTyped,
    named.trans otherNamed.symm⟩

/-- Two primitive types of the same name are the same. -/
theorem alike_primitive {type otherType : TypeDescriptor} {id otherId : ClassId}
    (linked : first.Linked id type) (otherLinked : second.Linked otherId otherType)
    (primitive : type.kind = .primitive) (otherPrimitive : otherType.kind = .primitive)
    (named : type.name = otherType.name) : first.Alike second type otherType := by
  rcases linked.eq_primitiveType primitive with ⟨here, rfl⟩
  rcases otherLinked.eq_primitiveType otherPrimitive with ⟨there, rfl⟩
  have read := Primitive.ofKeyword?_keyword there
  have same : here.keyword = there.keyword := named
  rw [← same, Primitive.ofKeyword?_keyword] at read
  cases read
  exact ⟨rfl, rfl, rfl, Option.Rel.none, List.Forall₂.nil, Option.Rel.none, rfl, rfl⟩

/-- Two arrays agree if their components do. -/
theorem alike_array {id otherId : ClassId} {type otherType : TypeDescriptor}
    (linked : first.Linked id type) (otherLinked : second.Linked otherId otherType)
    (array : type.name.isArray) (home : id.loader = otherId.loader)
    (named : type.name = otherType.name)
    (deeper : ∀ {component otherComponent element otherElement}, component < id →
      component.loader = id.loader → component.loader = otherComponent.loader →
        first.type? component = some element → second.type? otherComponent = some otherElement →
          element.name = otherElement.name → first.Alike second element otherElement) :
    first.Alike second type otherType := by
  have otherArray := array
  rw [named] at otherArray
  cases linked with
  | primitive primitive =>
    exact absurd array
      (ClassName.not_isArray_of_isPrimitive (ClassName.isPrimitive_keyword primitive))
  | declared notArray => exact absurd array notArray
  | @array name component element root cloneable serializable shape homeHere behind earlier
      isRoot isCloneable isSerializable =>
    cases otherLinked with
    | primitive primitive =>
      exact absurd otherArray
        (ClassName.not_isArray_of_isPrimitive (ClassName.isPrimitive_keyword primitive))
    | declared notArray => exact absurd otherArray notArray
    | @array otherName otherComponent otherElement otherRoot otherCloneable otherSerializable
        otherShape otherHome otherBehind _ otherIsRoot otherIsCloneable otherIsSerializable =>
      have same : name = otherName := named
      subst same
      rw [shape] at otherShape
      have sameName : element.name = otherElement.name := Option.some.inj otherShape
      have sameHome : component.loader = otherComponent.loader :=
        homeHere.trans (home.trans otherHome.symm)
      have lower : component < id := earlier _ List.mem_cons_self
      have below := deeper lower homeHere sameHome behind otherBehind sameName
      constructor
      · rfl
      · rfl
      · have primitive : element.isPrimitive = otherElement.isPrimitive := by
          rw [TypeDescriptor.isPrimitive, TypeDescriptor.isPrimitive, below.kind]
        simp only [arrayType, primitive, below.flags]
      · exact Option.Rel.some (same_boot isRoot otherIsRoot)
      · exact List.Forall₂.cons (same_boot isCloneable otherIsCloneable)
          (List.Forall₂.cons (same_boot isSerializable otherIsSerializable) List.Forall₂.nil)
      · exact Option.Rel.some ⟨sameHome, element, otherElement, behind, otherBehind, sameName⟩
      · exact below.source
      · rfl

/-- A class that goes by the name of a primitive one is primitive. -/
theorem Grown.primitive (grown : base.Grown first) (otherGrown : other.Grown second)
    {id otherId : ClassId} {type otherType : TypeDescriptor} (home : id.loader = otherId.loader)
    (typed : first.type? id = some type) (otherTyped : second.type? otherId = some otherType)
    (named : type.name = otherType.name) (primitive : type.kind = .primitive) :
    otherType.kind = .primitive := by
  rcases grown.fine.primitive_home typed primitive with ⟨boot, keyword⟩
  rw [home] at boot
  rw [named] at keyword
  exact otherGrown.memory.primitive_of_keyword otherGrown.fine otherTyped boot keyword

section

variable {region : LoaderId → Prop} (matching : Matching region base other)
  (sources : ∀ id, other.source? id = base.source? id)
  (grown : base.Grown first) (otherGrown : other.Grown second)

include matching grown otherGrown

/-- What a loader answers in both areas has the same defining loader. -/
theorem same_answer {id : LoaderId} (inside : region id) {name : ClassName}
    {found otherFound : ClassId} (answered : first.lookup? id name = some found)
    (otherAnswered : second.lookup? id name = some otherFound) :
    first.SameName second found otherFound := by
  have resolved : base.Resolves (.load [] id name) (.ok found.loader) :=
    grown.memory.recall grown.fine answered Harmless.nil
  have otherResolved : other.Resolves (.load [] id name) (.ok otherFound.loader) :=
    otherGrown.memory.recall otherGrown.fine otherAnswered Harmless.nil
  rcases grown.fine.answered answered with ⟨_, type, typed, rfl⟩
  rcases otherGrown.fine.answered otherAnswered with ⟨_, otherType, otherTyped, named⟩
  have equal := resolved.agree matching inside otherResolved
  exact ⟨(Except.ok.inj equal).symm, type, otherType, typed, otherTyped, named.symm⟩

/-- What a loader answers to a list of names is the same class by class. -/
theorem same_answers {id : LoaderId} (inside : region id) {names : List ClassName}
    {found otherFound : List ClassId}
    (answered : List.Forall₂ (fun name found => first.lookup? id name = some found) names found)
    (otherAnswered : List.Forall₂ (fun name found => second.lookup? id name = some found) names
      otherFound) : List.Forall₂ (first.SameName second) found otherFound := by
  induction answered generalizing otherFound with
  | nil =>
    cases otherAnswered
    exact List.Forall₂.nil
  | cons head _ inductiveStep =>
    cases otherAnswered with
    | cons otherHead rest =>
      exact List.Forall₂.cons (same_answer matching grown otherGrown inside head otherHead)
        (inductiveStep rest)

include sources

/-- Classes that have been built of the same definition agree. -/
theorem alike_of_built {id otherId : ClassId} {type otherType : TypeDescriptor}
    {definition otherDefinition : ClassDefinition ι} (inside : region id.loader)
    (home : id.loader = otherId.loader) (named : type.name = otherType.name)
    (built : base.Built first id type definition)
    (otherBuilt : other.Built second otherId otherType otherDefinition) :
    first.Alike second type otherType := by
  have defined := built.defined
  have otherDefined := otherBuilt.defined
  rw [← home, ← named, matching.definitions inside, defined] at otherDefined
  cases otherDefined
  have otherSuperclass := otherBuilt.superclass
  have otherInterfaces := otherBuilt.interfaces
  have otherSource := otherBuilt.source
  rw [← home] at otherSuperclass otherInterfaces otherSource
  rw [sources, built.source] at otherSource
  constructor
  · exact named
  · exact built.kind.trans otherBuilt.kind.symm
  · exact built.flags.trans otherBuilt.flags.symm
  · have superclass := built.superclass
    generalize definition.inheritedName? = name? at superclass otherSuperclass
    generalize type.superclass = found? at superclass
    generalize otherType.superclass = otherFound? at otherSuperclass
    cases superclass with
    | none =>
      cases otherSuperclass
      exact Option.Rel.none
    | some answered =>
      cases otherSuperclass with
      | some otherAnswered =>
        exact Option.Rel.some (same_answer matching grown otherGrown inside answered otherAnswered)
  · exact same_answers matching grown otherGrown inside built.interfaces otherInterfaces
  · rw [built.component, otherBuilt.component]
    exact Option.Rel.none
  · exact Option.some.inj otherSource
  · exact built.enclosure.trans otherBuilt.enclosure.symm

/-- Two classes of the same name at the same loader agree. -/
theorem alike {id otherId : ClassId} {type otherType : TypeDescriptor}
    (inside : region id.loader) (home : id.loader = otherId.loader)
    (typed : first.type? id = some type) (otherTyped : second.type? otherId = some otherType)
    (named : type.name = otherType.name) : first.Alike second type otherType := by
  have linked := grown.fine.linked typed
  have otherLinked := otherGrown.fine.linked otherTyped
  by_cases array : type.name.isArray
  · apply alike_array linked otherLinked array home named
    intro component otherComponent element otherElement lower homeHere sameHome behind
      otherBehind sameName
    rw [← homeHere] at inside
    exact alike inside sameHome behind otherBehind sameName
  · by_cases primitive : type.kind = .primitive
    · exact alike_primitive linked otherLinked primitive
        (grown.primitive otherGrown home typed otherTyped named primitive) named
    · have otherReference : otherType.kind ≠ .primitive := fun otherPrimitive => primitive
        (otherGrown.primitive grown home.symm otherTyped typed named.symm otherPrimitive)
      have otherOrdinary : ¬ otherType.name.isArray := by
        rw [← named]
        exact array
      rcases grown.memory.made typed array primitive with ⟨definition, built⟩
      rcases otherGrown.memory.made otherTyped otherOrdinary otherReference with
        ⟨otherDefinition, otherBuilt⟩
      exact alike_of_built matching sources grown otherGrown inside home named built otherBuilt
termination_by id

/-- A loader of the region comes to the same with a name in both areas. -/
theorem sameOutcome_load {id : LoaderId} (inside : region id) (known : (first.loader? id).isSome)
    (otherKnown : (second.loader? id).isSome) (name : ClassName) :
    SameOutcome ((load id name).outcome first) ((load id name).outcome second) := by
  have safe := safe_load name grown.fine known
  have otherSafe := safe_load name otherGrown.fine otherKnown
  have recalls := recalls_load name grown.fine grown.memory known grown.unlinked
  have otherRecalls := recalls_load name otherGrown.fine otherGrown.memory otherKnown
    otherGrown.unlinked
  have later := grown.load id name
  have otherLater := otherGrown.load id name
  have asked : (Goal.load [] id name).Inside region := inside
  generalize (load id name).outcome first = outcome at safe recalls later ⊢
  generalize (load id name).outcome second = otherOutcome at otherSafe otherRecalls otherLater ⊢
  rcases outcome with ⟨fault | found, after⟩
  · rcases safe.cause fault rfl with ⟨cause, rfl⟩
    have resolved := recalls.failed rfl
    rcases otherOutcome with ⟨otherFault | other, otherAfter⟩
    · rcases otherSafe.cause otherFault rfl with ⟨otherCause, rfl⟩
      cases resolved.agree matching asked (otherRecalls.failed rfl)
      exact SameOutcome.failed cause
    · cases resolved.agree matching asked (otherRecalls.found rfl)
  · have resolved := recalls.found rfl
    rcases otherOutcome with ⟨otherFault | other, otherAfter⟩
    · rcases otherSafe.cause otherFault rfl with ⟨otherCause, rfl⟩
      cases resolved.agree matching asked (otherRecalls.failed rfl)
    · have home := Except.ok.inj (resolved.agree matching asked (otherRecalls.found rfl))
      rcases later.fine.answered (safe.result _ rfl) with ⟨_, type, typed, named⟩
      rcases otherLater.fine.answered (otherSafe.result _ rfl) with
        ⟨_, otherType, otherTyped, otherNamed⟩
      exact SameOutcome.found home.symm typed otherTyped (alike matching sources later otherLater
        (resolved.within matching asked _ rfl) home.symm typed otherTyped (named.trans otherNamed.symm))

end

/-! ## Independence -/

/-- A load through a loader has the same outcome in any two runs that agree on the
loaders and, for this loader and its ancestors, on the definitions. -/
theorem load_independent (unused : first.Unused) (otherUnused : second.Unused)
    (loaders : first.SameLoaders second) {id : LoaderId} (known : (first.loader? id).isSome)
    (definitions : ∀ ancestor, first.Delegates id ancestor → ∀ name,
      first.definition? ancestor name = second.definition? ancestor name)
    (requests otherRequests : List (LoaderId × ClassName)) (name : ClassName) :
    SameOutcome ((load id name).outcome (first.loadAll requests))
      ((load id name).outcome (second.loadAll otherRequests)) := by
  have fine := unused.reachable.wellFormed
  have matching : Matching (first.Delegates id) first second :=
    ⟨unused.bare.rooted fine known, unused.bare.memory.top fine, fun _ => loaders.parent? _,
      fun asked below => asked.tail below, fun asked sought => (definitions _ asked sought).symm⟩
  have grown := unused.grown.loadAll requests
  have otherGrown := otherUnused.grown.loadAll otherRequests
  have present : ((first.loadAll requests).loader? id).isSome := by
    rw [grown.frame.isSome]
    exact known
  have otherPresent : ((second.loadAll otherRequests).loader? id).isSome := by
    rw [otherGrown.frame.isSome, loaders.isSome]
    exact known
  exact sameOutcome_load matching loaders.source? grown otherGrown Relation.ReflTransGen.refl
    present otherPresent name

/-- An area with two loaders below the bootstrap loader, of which the second has
the given definition. -/
def siblings (definition : ClassDefinition Unit) : Area Unit :=
  let definitions : List (ClassDefinition Unit) :=
    [{ ClassDefinition.ordinary ClassName.object with superName := none },
      .interface ClassName.cloneable, .interface ClassName.serializable]
  let empty := ((addLoader "second" .bootPath none).outcome
    ((addLoader "first" .bootPath none).outcome (initial definitions)).2).2
  ((addDefinition ⟨2⟩ definition).outcome ((addDefinition ⟨1⟩ (.ordinary "A")).outcome empty).2).2

theorem unused_siblings (definition : ClassDefinition Unit) : (siblings definition).Unused :=
  .addDefinition _ _ (.addDefinition _ _ (.addLoader _ _ _ (by simp) (.addLoader _ _ _ (by simp)
    (.initial _))))

/-- The case of an array that is loaded after its component in one run, and after
a class of a sibling in the other. -/
theorem load_independent_siblings :
    let plain : ClassDefinition Unit := .ordinary "B"
    let interface : ClassDefinition Unit := .interface "C"
    let first := (siblings plain).loadAll [(⟨1⟩, "[A"), (⟨1⟩, "A")]
    let second := (siblings interface).loadAll [(⟨2⟩, "C"), (⟨1⟩, "C")]
    ((load ⟨1⟩ "[LA;").outcome first).1.toOption = some ⟨⟨1⟩, 1⟩ ∧
      SameOutcome ((load ⟨1⟩ "[LA;").outcome first) ((load ⟨1⟩ "[LA;").outcome second) := by
  intro plain interface first second
  refine ⟨by decide +kernel, load_independent (unused_siblings _) (unused_siblings _)
    ((SameLoaders.addDefinition _ _ _).symm.trans (SameLoaders.addDefinition _ _ _))
    (by decide) (fun ancestor asked name => ?_) _ _ _⟩
  have bounded := (unused_siblings plain).reachable.wellFormed.delegates_le asked
  have different : (⟨2⟩ : LoaderId) ≠ ancestor := by
    rintro rfl
    exact absurd bounded (by decide)
  rw [siblings, siblings, outcome_addDefinition, outcome_addDefinition ⟨2⟩, definition?,
    definition?, loader?_updateLoader, loader?_updateLoader, if_neg different, if_neg different]

end Area
end ClassRuntime

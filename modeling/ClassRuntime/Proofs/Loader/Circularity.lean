import ClassRuntime.Proofs.Loader.Settled

namespace ClassRuntime

/-!
# Circular definitions

A definition depends on the definitions to which the names in it lead.  Which
these are is a matter of parents and definitions: a name leads to what the parent
finds, to the loader's own definition if the parent does not find it, and in the
case of an array to the element and to the classes on which all arrays rest.

A load reports a circularity only for a definition that depends on itself, and a
definition that depends on itself, or on one that does, is never made into a class.
Marks are kept for each loader by name, so the first part says that no mark is taken
for that of another loader and none is left behind.  For the second part there is
nothing to say about marks: a class rests on earlier classes alone.
-/

namespace Area

variable {ι : Type} {area later : Area ι} {id parent : LoaderId} {name : ClassName}

/-! ## Dependence -/

/-- A load through the loader ends without finding any class. -/
def Misses (area : Area ι) (id : LoaderId) (name : ClassName) : Prop :=
  ∃ missing, ((load id name).outcome area).1 = .error (.error (.classNotFound missing))

/-- The definitions to which a name leads at a loader.  A definition is told by its
loader and its name. -/
inductive Denotes (area : Area ι) : LoaderId → ClassName → LoaderId × ClassName → Prop
  | own {id : LoaderId} {name : ClassName} : ¬ name.isArray →
      ¬ (id = .bootstrap ∧ name.isPrimitive) →
      (∀ parent, area.parent? id = some parent → area.Misses parent name) →
      (area.definition? id name).isSome → Denotes area id name (id, name)
  | parent {id parent : LoaderId} {name : ClassName} {denoted : LoaderId × ClassName} :
      ¬ name.isArray → area.parent? id = some parent → ¬ area.Misses parent name →
        Denotes area parent name denoted → Denotes area id name denoted
  | element {id : LoaderId} {name component : ClassName} {denoted : LoaderId × ClassName} :
      name.isArray → name.component? = some component → Denotes area id component denoted →
        Denotes area id name denoted
  | basic {id : LoaderId} {name component : ClassName} {demand : Demand}
      {denoted : LoaderId × ClassName} : name.isArray → name.component? = some component →
        demand ∈ Demand.basics → Denotes area .bootstrap demand.name denoted →
          Denotes area id name denoted

/-- A name in the first definition leads to the second. -/
def Depends (area : Area ι) (first second : LoaderId × ClassName) : Prop :=
  ∃ definition, area.definition? first.1 first.2 = some definition ∧
    ∃ demand ∈ definition.demands, area.Denotes first.1 demand.name second

/-- The loader or one that is asked on its behalf has a definition of the name that
depends on itself. -/
def Circles (area : Area ι) (id : LoaderId) (name : ClassName) : Prop :=
  ∃ home, area.Delegates id home ∧ (area.definition? home name).isSome ∧
    Relation.TransGen area.Depends (home, name) (home, name)

theorem Circles.above (asked : area.Delegates id parent) (circles : area.Circles parent name) :
    area.Circles id name := by
  rcases circles with ⟨home, above, defined, around⟩
  exact ⟨home, asked.trans above, defined, around⟩

/-! ## What a report of circularity means -/

/-- How a request can come to report a circularity: there is one, or the request
leads to a definition that its own loader is linking. -/
def Goal.Explained (area : Area ι) (circular : ClassName) : Goal → Prop
  | .load marks id name => (area.loader? id).isSome → area.Circles id circular ∨
      circular ∈ marks ∧ ∃ first, area.Denotes id name first ∧
        Relation.ReflTransGen area.Depends first (id, circular)
  | .orDefine marks id name asked => (area.loader? id).isSome →
      asked = .error (.classCircularity circular) ∨ area.Circles id circular ∨
      (∃ missing, asked = .error (.classNotFound missing)) ∧ circular ∈ marks ∧
        (area.definition? id name).isSome ∧
        Relation.ReflTransGen area.Depends (id, name) (id, circular)
  | .define marks id name => (area.loader? id).isSome → area.Circles id circular ∨
      circular ∈ marks ∧ (area.definition? id name).isSome ∧
        Relation.ReflTransGen area.Depends (id, name) (id, circular)
  | .meet marks id _ _ demands => (area.loader? id).isSome → area.Circles id circular ∨
      circular ∈ marks ∧ ∃ demand ∈ demands, ∃ first, area.Denotes id demand.name first ∧
        Relation.ReflTransGen area.Depends first (id, circular)

theorem Accounted.explained (accounted : area.Accounted) {goal : Goal} {answer : Answer}
    (resolved : area.Resolves goal answer) {circular : ClassName}
    (reported : answer = .error (.classCircularity circular)) : goal.Explained area circular := by
  induction resolved with
  | primitive => cases reported
  | malformed => cases reported
  | @componentFails marks id name component cause array shape _ inner =>
    intro known
    rcases inner reported known with circles | ⟨marked, first, denotes, path⟩
    · exact Or.inl circles
    · exact Or.inr ⟨marked, first, .element array shape denotes, path⟩
  | @array marks id home name component answer array shape _ _ _ basics =>
    intro known
    rcases basics reported accounted.fine.rooted with
      circles | ⟨marked, demand, member, first, denotes, path⟩
    · exact Or.inl (circles.above (accounted.rooted known))
    · split at marked
      next here =>
        subst here
        exact Or.inr ⟨marked, first, .basic array shape member denotes, path⟩
      next => cases marked
  | @top marks id name answer ordinary reference none _ own =>
    intro known
    rcases own reported known with circles | ⟨marked, defined, path⟩
    · exact Or.inl circles
    · refine Or.inr ⟨marked, _, .own ordinary reference ?_ defined, path⟩
      intro parent below
      rw [none] at below
      cases below
  | @parentFirst marks id parent name asked answer ordinary below above _ inner own =>
    intro known
    have there := accounted.fine.parent_known below
    rcases own reported known with passed | circles | ⟨⟨missing, notFound⟩, marked, defined, path⟩
    · rcases inner passed there with circles | ⟨marked, _⟩
      · exact Or.inl (circles.above (Relation.ReflTransGen.single below))
      · cases marked
    · exact Or.inl circles
    · refine Or.inr ⟨marked, _, .own ordinary ?_ ?_ defined, path⟩
      · rintro ⟨rfl, _⟩
        exact absurd (accounted.fine.descending below) (Nat.not_lt_zero _)
      · intro other belowOther
        rw [below] at belowOther
        cases belowOther
        subst notFound
        exact ⟨missing, accounted.load_error there above⟩
  | inherited => cases reported
  | passed => exact fun _ => Or.inl reported
  | @shadowed marks id name missing answer _ own =>
    intro known
    rcases own reported known with circles | ⟨marked, defined, path⟩
    · exact Or.inr (Or.inl circles)
    · exact Or.inr (Or.inr ⟨⟨missing, rfl⟩, marked, defined, path⟩)
  | undefined => cases reported
  | circular defined marked =>
    cases reported
    intro known
    refine Or.inr ⟨marked, ?_, Relation.ReflTransGen.refl⟩
    rw [defined]
    rfl
  | @linked marks id name definition answer defined unmarked _ met =>
    intro known
    rcases met reported known with circles | ⟨marked, demand, member, first, denotes, path⟩
    · exact Or.inl circles
    · have depends : area.Depends (id, name) first := ⟨definition, defined, demand, member, denotes⟩
      have there : (area.definition? id name).isSome := by
        rw [defined]
        rfl
      rcases List.mem_cons.1 marked with rfl | earlier
      · exact Or.inl ⟨id, Relation.ReflTransGen.refl, there, Relation.TransGen.head' depends path⟩
      · exact Or.inr ⟨earlier, there, Relation.ReflTransGen.head depends path⟩
  | met => cases reported
  | @failed marks id home owner first rest cause _ inner =>
    intro known
    rcases inner reported known with circles | ⟨marked, start, denotes, path⟩
    · exact Or.inl circles
    · exact Or.inr ⟨marked, first, List.mem_cons_self, start, denotes, path⟩
  | refused => cases reported
  | next _ _ _ _ inner =>
    intro known
    rcases inner reported known with circles | ⟨marked, demand, member, start, denotes, path⟩
    · exact Or.inl circles
    · exact Or.inr ⟨marked, demand, List.mem_cons_of_mem _ member, start, denotes, path⟩

/-! ## Classes rest on earlier classes -/

/-- The class has been made of the definition. -/
def Realizes (area : Area ι) (definition : LoaderId × ClassName) (found : ClassId) : Prop :=
  ∃ type, area.type? found = some type ∧ found.loader = definition.1 ∧
    type.name = definition.2 ∧ type.kind ≠ .primitive ∧ type.kind ≠ .array

theorem Linked.kind_eq_array_iff {found : ClassId} {type : TypeDescriptor}
    (linked : area.Linked found type) : type.kind = .array ↔ type.name.isArray := by
  cases linked with
  | primitive primitive =>
    have plain : ¬ (Loader.primitiveType primitive).name.isArray :=
      ClassName.not_isArray_of_isPrimitive (ClassName.isPrimitive_keyword primitive)
    refine ⟨fun impossible => ?_, fun array => absurd array plain⟩
    cases impossible
  | array named => exact ⟨fun _ => ClassName.isArray_of_component? named, fun _ => rfl⟩
  | declared plain kind =>
    refine ⟨fun array => ?_, fun array => absurd array plain⟩
    rcases kind with other | ⟨other, _⟩ <;> rw [array] at other <;> cases other

/-- A name that a loader answers leads to definitions of which classes have been made,
before any class that is later than the answer. -/
theorem Denotes.realized (accounted : area.Accounted) (onward : area.Continues later)
    {denoted : LoaderId × ClassName} (denotes : area.Denotes id name denoted) {answer : ClassId}
    (answered : later.lookup? id name = some answer) {bound : ClassId} (lower : answer < bound) :
    ∃ found, found < bound ∧ later.Realizes denoted found := by
  have accountedLater := onward.accounted accounted
  have fine := accountedLater.fine
  induction denotes generalizing answer with
  | @own id name ordinary reference misses defined =>
    rcases Option.isSome_iff_exists.1 defined with ⟨definition, present⟩
    rcases Option.bind_eq_some_iff.1 present with ⟨loader, known, _⟩
    have home : answer.loader = id := by
      by_contra elsewhere
      rcases (accountedLater.memory.answers answered).delegated ordinary elsewhere with
        ⟨parent, below, answeredAbove⟩
      rw [onward.parent? accounted (Option.isSome_iff_exists.2 ⟨loader, known⟩)] at below
      rcases misses parent below with ⟨missing, failed⟩
      have there := accounted.fine.parent_known below
      have again := (accounted.load_fails onward there _).1 failed
      rw [outcome_load_answered answeredAbove] at again
      cases again
    rcases fine.answered answered with ⟨_, type, typed, rfl⟩
    refine ⟨answer, lower, type, typed, home, rfl, fun primitive => ?_, ?_⟩
    · rcases fine.primitive_home typed primitive with ⟨top, keyword⟩
      exact reference ⟨home.symm.trans top, keyword⟩
    · rwa [Ne, (fine.linked typed).kind_eq_array_iff]
  | @parent id parent name denoted ordinary below finds _ inner =>
    rcases loader?_of_parent? below with ⟨loader, known⟩
    have same := onward.parent? accounted (Option.isSome_iff_exists.2 ⟨loader, known⟩)
    have belowLater := same.trans below
    have elsewhere : answer.loader ≠ id := by
      intro here
      rcases accountedLater.built_of_own belowLater ordinary answered here with
        ⟨type, definition, _, rfl, built⟩
      subst here
      rcases built.missing parent belowLater with ⟨missing, notFound⟩
      have there := accounted.fine.parent_known below
      have failed := accountedLater.load_error (onward.retains.loader there) notFound
      exact finds ⟨missing, (accounted.load_fails onward there _).2 failed⟩
    rcases (accountedLater.memory.answers answered).delegated ordinary elsewhere with
      ⟨other, belowOther, answeredAbove⟩
    rw [belowLater] at belowOther
    cases belowOther
    exact inner answeredAbove lower
  | @element id name component denoted array shape _ inner =>
    rcases (accountedLater.memory.answers answered).array array with
      ⟨_, part, shapeAgain, answeredPart, home⟩
    rw [shape] at shapeAgain
    cases shapeAgain
    rcases fine.answered answered with ⟨_, type, typed, rfl⟩
    rcases fine.answered answeredPart with ⟨_, element, typedPart, named⟩
    have before := fine.component_earlier typed shape typedPart named home
    exact inner answeredPart (ClassId.lt_trans before lower)
  | @basic id name component demand denoted array shape member _ inner =>
    rcases fine.answered answered with ⟨_, type, typed, rfl⟩
    rcases fine.basics typed array member with ⟨other, answeredOther, before⟩
    exact inner answeredOther (ClassId.lt_trans before lower)

/-- If a class has been made of a definition, an earlier one has been made of each that
it depends on. -/
theorem Depends.realized (accounted : area.Accounted) (onward : area.Continues later)
    {first second : LoaderId × ClassName} (depends : area.Depends first second) {found : ClassId}
    (realizes : later.Realizes first found) :
    ∃ lower, lower < found ∧ later.Realizes second lower := by
  have accountedLater := onward.accounted accounted
  rcases first with ⟨id, name⟩
  rcases depends with ⟨definition, defined, demand, member, denotes⟩
  rcases realizes with ⟨type, typed, home, named, reference, notArray⟩
  simp only at defined denotes home named
  subst home named
  have linked := accountedLater.fine.linked typed
  rw [Ne, linked.kind_eq_array_iff] at notArray
  rcases accountedLater.memory.made typed notArray reference with ⟨other, built⟩
  have definedLater := built.defined
  rw [onward.definition?, defined] at definedLater
  cases definedLater
  rcases built.demands linked notArray member with ⟨answer, answered, lower, _⟩
  exact denotes.realized accounted onward answered lower

/-- With settled definitions, a load reports a circularity only of a definition that
depends on itself and belongs to the loader or one of its ancestors, and no class is
ever made of a definition that depends on itself or leads to one that does. -/
theorem Settled.circularity_exact (settled : area.Settled) :
    (∀ id name circular,
      ((load id name).outcome area).1 = .error (.error (.classCircularity circular)) →
        area.Circles id circular) ∧
    (∀ first cyclic later found type, Relation.ReflTransGen area.Depends first cyclic →
      Relation.TransGen area.Depends cyclic cyclic → area.Continues later →
        later.type? found = some type → found.loader = first.1 → type.name = first.2 →
          type.kind = .primitive ∨ type.kind = .array) := by
  have accounted := settled.accounted
  constructor
  · intro id name circular failed
    rcases accounted.explained (accounted.resolves_error failed) rfl (isSome_of_load_error failed)
      with circles | ⟨impossible, _⟩
    · exact circles
    · cases impossible
  · intro first cyclic later found type path around onward typed home named
    have fine := (onward.accounted accounted).fine
    by_contra made
    rw [not_or] at made
    have down {first second : LoaderId × ClassName} {found : ClassId}
        (path : Relation.TransGen area.Depends first second)
        (realizes : later.Realizes first found) :
        ∃ lower, lower < found ∧ later.Realizes second lower := by
      induction path with
      | single depends => exact depends.realized accounted onward realizes
      | tail _ depends inductiveStep =>
        rcases inductiveStep with ⟨lower, before, made⟩
        rcases depends.realized accounted onward made with ⟨last, beforeThat, madeLast⟩
        exact ⟨last, ClassId.lt_trans beforeThat before, madeLast⟩
    have start : later.Realizes first found := ⟨type, typed, home, named, made⟩
    have reached : ∃ lower, later.Realizes cyclic lower := by
      rcases Relation.reflTransGen_iff_eq_or_transGen.1 path with rfl | steps
      · exact ⟨found, start⟩
      · rcases down steps start with ⟨lower, _, made⟩
        exact ⟨lower, made⟩
    rcases reached with ⟨lower, made⟩
    rcases down around made with ⟨last, before, madeAgain⟩
    rcases made with ⟨_, typedLower, homeLower, namedLower, _⟩
    rcases madeAgain with ⟨_, typedLast, homeLast, namedLast, _⟩
    have same := fine.unique typedLast typedLower (homeLast.trans homeLower.symm)
      (namedLast.trans namedLower.symm)
    rw [same] at before
    exact ClassId.lt_irrefl _ before

/-- The case of two classes of which one extends the other and the other extends an
array of the first.  A child has a sound definition under the same name, which is
never asked for. -/
theorem circularity_exact_array :
    let definitions : List (ClassDefinition Unit) :=
      [{ ClassDefinition.ordinary ClassName.object with superName := none },
        .interface ClassName.cloneable, .interface ClassName.serializable]
    let loaders := ((addLoader "child" .bootPath (some ⟨1⟩)).outcome
      ((addLoader "parent" .bootPath none).outcome (initial definitions)).2).2
    let area := ((addDefinition ⟨2⟩ (.ordinary "A")).outcome
      ((addDefinition ⟨1⟩ ((ClassDefinition.ordinary "B").extending "[LA;")).outcome
        ((addDefinition ⟨1⟩ ((ClassDefinition.ordinary "A").extending "B")).outcome loaders).2).2).2
    let later := ((load ⟨1⟩ "[LA;").outcome ((load ⟨2⟩ "A").outcome area).2).2
    area.Settled ∧
      ((load ⟨2⟩ "A").outcome area).1 = .error (.error (.classCircularity "A")) ∧
      ∃ home, area.Delegates ⟨2⟩ home ∧ Relation.TransGen area.Depends (home, "A") (home, "A") ∧
        ∀ found type, later.type? found = some type → found.loader = home → type.name = "A" →
          type.kind = .primitive ∨ type.kind = .array := by
  intro definitions loaders area later
  have unused : loaders.Unused :=
    .addLoader _ _ _ (by rintro _ ⟨⟩; decide) (.addLoader _ _ _ (by simp) (.initial _))
  have settled : area.Settled :=
    Unused.settled (.addDefinition _ _ (.addDefinition _ _ (.addDefinition _ _ unused)))
  have failed : ((load ⟨2⟩ "A").outcome area).1 = .error (.error (.classCircularity "A")) := by
    decide +kernel
  have accounted := settled.accounted
  have onward : area.Continues later :=
    .tail (.single (proceeds_load accounted _ _)) (proceeds_load (accounted.after_load _ _) _ _)
  rcases settled.circularity_exact.1 ⟨2⟩ "A" "A" failed with ⟨home, asked, _, around⟩
  refine ⟨settled, failed, home, asked, around, fun found type typed here named => ?_⟩
  exact settled.circularity_exact.2 (home, "A") (home, "A") later found type .refl around onward
    typed here named

end Area
end ClassRuntime

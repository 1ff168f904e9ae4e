import ClassRuntime.Proofs.Machine.Places

namespace ClassRuntime
namespace Machine

/-!
# Canonical objects

The object that stands for a class or loader is made when it is asked for the first
time, and from then on it is the answer.  Between the look at an empty place and its
filling, the class of the object is loaded, which may fail and may bring further classes
with it.  But loading fills no places and makes no objects.

So the objects in their places are told apart by their identities, each stands for the
class or loader to which its place belongs, and the counters say how many there are.
What else a program makes, objects that claim to stand for something included, does
not get into these places.
-/

variable {ι α : Type} {machine before middle after later : Machine ι} {subject other : Subject}
  {object twin : Object}

/-- Ask for the object that stands for the subject. -/
def objectOf : Subject → Action (Machine ι) Object
  | .mirror id => mirrorOf id
  | .handle id => handleOf id
  | .pool id => poolOf id

/-- The object that is made next, if it is to stand for the subject. -/
def nextFor (machine : Machine ι) (subject : Subject) (type : ClassId) : Object :=
  .plain ⟨machine.number, machine.nextObject⟩ type (some subject)

/-- The machine once this object is in its place. -/
def granted (machine : Machine ι) (subject : Subject) (type : ClassId) : Machine ι :=
  { machine with
    area := machine.area.keep (machine.nextFor subject type) subject
    metrics := Metrics.countMade subject.role machine.metrics
    nextObject := machine.nextObject + 1 }

/-! ## One request -/

/-- What comes of asking for the object that stands for a subject. -/
inductive Obtains (machine : Machine ι) (subject : Subject) :
    Except Fault Object × Machine ι → Prop
  | absent {fault : Fault} (absent : ¬ machine.area.Has subject) :
      Obtains machine subject (.error fault, machine)
  | kept {object : Object} (kept : machine.area.kept? subject = some object) :
      Obtains machine subject (.ok object, machine)
  | failed {fault : Fault} {area : Area ι} (empty : machine.area.kept? subject = none)
      (failed : (Area.load subject.home subject.className).outcome machine.area =
        (.error fault, area)) : Obtains machine subject (.error fault, { machine with area })
  | made {type : ClassId} {area : Area ι} (has : machine.area.Has subject)
      (empty : machine.area.kept? subject = none)
      (found : (Area.load subject.home subject.className).outcome machine.area = (.ok type, area)) :
      Obtains machine subject (.ok (machine.nextFor subject type),
        granted { machine with area } subject type)

/-- Make the object and let the subject have it. -/
def makeFor : Subject → ClassId → Action (Machine ι) Object
  | .mirror id => makeMirror id
  | .handle id => makeHandle id
  | .pool id => makePool id

theorem outcome_makeFor (machine : Machine ι) (subject : Subject) (type : ClassId) :
    (makeFor subject type).outcome machine =
      (.ok (machine.nextFor subject type), machine.granted subject type) := by
  cases subject <;> rfl

theorem obtains_of_empty (has : machine.area.Has subject)
    (empty : machine.area.kept? subject = none) :
    machine.Obtains subject
      ((load subject.home subject.className >>= makeFor subject).outcome machine) := by
  rw [Action.outcome_bind, outcome_load]
  rcases found : (Area.load subject.home subject.className).outcome machine.area with
    ⟨fault | type, area⟩
  · exact .failed empty found
  · dsimp only
    rw [outcome_makeFor]
    exact .made has empty found

theorem obtains (machine : Machine ι) (subject : Subject) :
    machine.Obtains subject ((objectOf subject).outcome machine) := by
  cases subject with
  | mirror id =>
    rw [objectOf, mirrorOf, Action.outcome_bind, outcome_getClass]
    cases read : machine.area.loadedClass id with
    | error fault =>
      refine .absent fun has => ?_
      rcases Option.isSome_iff_exists.1 has with ⟨loaded, found⟩
      rw [Area.loadedClass_eq_ok found] at read
      cases read
    | ok loaded =>
      have found := Area.class?_of_loadedClass read
      have place : machine.area.kept? (.mirror id) = loaded.mirror := Area.mirror?_eq found
      dsimp only
      cases kept : loaded.mirror with
      | some mirror => exact .kept (place.trans kept)
      | none => exact obtains_of_empty (Option.isSome_iff_exists.2 ⟨_, found⟩) (place.trans kept)
  | handle id =>
    rw [objectOf, handleOf, Action.outcome_bind, outcome_getLoader]
    cases known : machine.area.loader? id with
    | none =>
      rw [Area.loader_eq_error known]
      refine .absent fun has => ?_
      rw [Area.Has, known] at has
      cases has
    | some loader =>
      have place : machine.area.kept? (.handle id) = loader.handle := by
        rw [Area.kept?, known, Option.bind_some]
      rw [Area.loader_eq_ok known]
      dsimp only
      cases kept : loader.handle with
      | some handle => exact .kept (place.trans kept)
      | none => exact obtains_of_empty (Option.isSome_iff_exists.2 ⟨_, known⟩) (place.trans kept)
  | pool id =>
    rw [objectOf, poolOf, Action.outcome_bind, outcome_getClass]
    cases read : machine.area.loadedClass id with
    | error fault =>
      refine .absent fun has => ?_
      rcases Option.isSome_iff_exists.1 has with ⟨loaded, found⟩
      rw [Area.loadedClass_eq_ok found] at read
      cases read
    | ok loaded =>
      have found := Area.class?_of_loadedClass read
      have place : machine.area.kept? (.pool id) = loaded.pool := by
        rw [Area.kept?, found, Option.bind_some]
      dsimp only
      cases kept : loaded.pool with
      | some pool => exact .kept (place.trans kept)
      | none => exact obtains_of_empty (Option.isSome_iff_exists.2 ⟨_, found⟩) (place.trans kept)

/-! ## What every step keeps -/

/-- The objects in their places are those that the machine has made for them, and they
are counted. -/
structure Canonical (machine : Machine ι) : Prop where
  own : ∀ {subject object}, machine.area.kept? subject = some object → ∃ index type,
    object = .plain ⟨machine.number, index⟩ type (some subject) ∧ index < machine.nextObject ∧
      machine.area.lookup? subject.home subject.className = some type
  apart : ∀ {subject other object twin}, machine.area.kept? subject = some object →
    machine.area.kept? other = some twin → object.id = twin.id → subject = other
  counted : ∀ role, machine.metrics.made role = machine.area.keptCount role

/-- Objects stay in their places, and no others get there but those that are made for
them. -/
structure Keeps (before after : Machine ι) : Prop where
  kept : ∀ {subject object}, before.area.kept? subject = some object →
    after.area.kept? subject = some object
  canonical : before.Canonical → after.Canonical

instance : IsPreorder (Machine ι) Keeps where
  refl _ := ⟨fun kept => kept, fun canonical => canonical⟩
  trans _ _ _ first second := ⟨fun kept => second.kept (first.kept kept),
    fun canonical => second.canonical (first.canonical canonical)⟩

/-- A step that has nothing to do with the places. -/
structure Spares (before after : Machine ι) : Prop where
  retains : before.Retains after
  places : before.area.SameKept after.area
  number : after.number = before.number
  later : before.nextObject ≤ after.nextObject
  made : ∀ role, after.metrics.made role = before.metrics.made role

theorem Spares.has (spares : before.Spares after) (has : before.area.Has subject) :
    after.area.Has subject := by
  cases subject with
  | mirror id => exact spares.retains.isSome has
  | handle id => exact spares.retains.loader has
  | pool id => exact spares.retains.isSome has

theorem Spares.keeps (spares : before.Spares after) : before.Keeps after where
  kept kept := (spares.places.kept _).trans kept
  canonical canonical := by
    constructor
    · intro subject object kept
      rw [spares.places.kept] at kept
      rcases canonical.own kept with ⟨index, type, same, bounded, answered⟩
      rw [spares.number]
      exact ⟨index, type, same, Nat.lt_of_lt_of_le bounded spares.later,
        spares.retains.answer answered⟩
    · intro subject other object twin kept keptOther same
      rw [spares.places.kept] at kept keptOther
      exact canonical.apart kept keptOther same
    · intro role
      rw [spares.made, spares.places.counts]
      exact canonical.counted role

theorem spares_onArea {action : Action (Area ι) α} (retains : action.Within Area.Retains)
    (places : action.Within Area.SameKept) : (onArea action).Within Spares :=
  fun machine => ⟨retains machine.area, places machine.area, rfl, Nat.le_refl _, fun _ => rfl⟩

theorem spares_count {advance : Metrics → Metrics}
    (made : ∀ metrics role, (advance metrics).made role = metrics.made role) :
    (count advance : Action (Machine ι) Unit).Within Spares := fun machine =>
  ⟨refl_of Retains machine, refl_of Area.SameKept machine.area, rfl, Nat.le_refl _,
    made machine.metrics⟩

theorem retains_keep (area : Area ι) (object : Object) (subject : Subject) :
    area.Retains (area.keep object subject) := by
  cases subject with
  | mirror id => exact Area.retains_updateClass area id fun _ => rfl
  | handle id => exact Area.retains_relink area id _ (fun _ => rfl) fun _ => rfl
  | pool id => exact Area.retains_updateClass area id fun _ => rfl

/-- An object that is made next is none of those that are in their places. -/
theorem Canonical.ne_nextFor (canonical : machine.Canonical)
    (kept : machine.area.kept? other = some object) (subject : Subject) (type : ClassId) :
    object.id ≠ (machine.nextFor subject type).id := by
  rcases canonical.own kept with ⟨index, known, rfl, bounded, _⟩
  intro same
  exact Nat.ne_of_lt bounded (congrArg ObjectId.index same)

theorem keeps_granted {type : ClassId} (has : machine.area.Has subject)
    (empty : machine.area.kept? subject = none)
    (answered : machine.area.lookup? subject.home subject.className = some type) :
    machine.Keeps (machine.granted subject type) := by
  have retains := retains_keep machine.area (machine.nextFor subject type) subject
  have keeping (other : Subject) : (machine.granted subject type).area.kept? other =
      if subject = other then some (machine.nextFor subject type)
      else machine.area.kept? other :=
    Area.kept?_keep has _ other
  constructor
  · intro other object kept
    rw [keeping, if_neg]
    · exact kept
    · rintro rfl
      cases empty.symm.trans kept
  · intro canonical
    constructor
    · intro other object kept
      rw [keeping] at kept
      split at kept
      next here =>
        subst here
        cases kept
        exact ⟨machine.nextObject, type, rfl, Nat.lt_succ_self _, retains.answer answered⟩
      next =>
        rcases canonical.own kept with ⟨index, known, same, bounded, answered⟩
        exact ⟨index, known, same, Nat.lt_succ_of_lt bounded, retains.answer answered⟩
    · intro first second object twin kept keptTwin same
      rw [keeping] at kept keptTwin
      by_cases here : subject = first <;> by_cases there : subject = second
      · exact here.symm.trans there
      · rw [if_pos here] at kept
        rw [if_neg there] at keptTwin
        cases kept
        exact absurd same.symm (canonical.ne_nextFor keptTwin subject type)
      · rw [if_neg here] at kept
        rw [if_pos there] at keptTwin
        cases keptTwin
        exact absurd same (canonical.ne_nextFor kept subject type)
      · rw [if_neg here] at kept
        rw [if_neg there] at keptTwin
        exact canonical.apart kept keptTwin same
    · intro role
      rw [granted, Metrics.made_countMade, Area.keptCount_keep has empty, canonical.counted]

theorem spares_load (id : LoaderId) (name : ClassName) :
    (load id name : Action (Machine ι) ClassId).Within Spares :=
  spares_onArea (Area.retains_load id name) (Area.loading_sameKept.load id name)

theorem keeps_objectOf (subject : Subject) :
    (objectOf subject : Action (Machine ι) Object).Within Keeps := by
  intro machine
  have spares := spares_load subject.home subject.className machine
  rw [outcome_load] at spares
  have obtains := machine.obtains subject
  generalize (objectOf subject).outcome machine = outcome at obtains
  cases obtains with
  | absent => exact refl_of Keeps machine
  | kept => exact refl_of Keeps machine
  | failed empty failed =>
    rw [failed] at spares
    exact spares.keeps
  | made has empty found =>
    rw [found] at spares
    exact trans_of Keeps spares.keeps (keeps_granted (spares.has has)
      ((spares.places.kept subject).trans empty) (Area.lookup?_of_load found))

/-! ## Histories -/

theorem handing_keeps :
    Handing fun α (action : Action (Machine ι) α) => action.Within Keeps := by
  have spares {α : Type} {action : Action (Machine ι) α} (spares : action.Within Spares) :
      action.Within Keeps := fun machine => (spares machine).keeps
  exact {
    toCompositional := Action.compositional_within Keeps
    attach := spares fun machine => ⟨refl_of Retains machine, refl_of Area.SameKept machine.area,
      rfl, Nat.le_refl _, fun _ => rfl⟩
    addLoader := fun name source parent => spares (spares_onArea
      (Area.retains_addLoader name source parent) (Area.sameKept_addLoader name source parent))
    addDefinition := fun id definition => spares (spares_onArea
      (Area.retains_addDefinition id definition) (Area.sameKept_addDefinition id definition))
    load := fun id name => spares (spares_load id name)
    resolve := fun id name => spares (spares_onArea
      (spans_retains.resolve id name) (Area.loading_sameKept.resolve id name))
    getClass := fun id machine => by
      rw [outcome_getClass]
      exact refl_of Keeps machine
    makeObject := fun make => spares fun machine => ⟨refl_of Retains machine,
      refl_of Area.SameKept machine.area, rfl, Nat.le_succ _, fun _ => rfl⟩
    mirrorOf := fun id => keeps_objectOf (.mirror id)
    poolOf := fun id => keeps_objectOf (.pool id)
    handleOf := fun id => keeps_objectOf (.handle id) }

theorem keeps_isAssignable (source target : ClassId) :
    (isAssignable source target : Action (Machine ι) Bool).Within Keeps := by
  have counts {advance : Metrics → Metrics}
      (made : ∀ metrics role, (advance metrics).made role = metrics.made role) :
      (count advance : Action (Machine ι) Unit).Within Keeps :=
    fun machine => (spares_count made machine).keeps
  refine isAssignable_of_parts (Action.compositional_within Keeps) (counts ?_) (counts ?_)
    (fun _ _ _ => .ofExcept _) (fun _ _ machine => Spares.keeps ?_) source target
  · intro metrics role
    cases role <;> rfl
  · intro metrics role
    cases role <;> rfl
  · exact ⟨refl_of Retains machine, refl_of Area.SameKept machine.area, rfl, Nat.le_refl _,
      fun _ => rfl⟩

theorem Step.keeps {question? : Option (Question ι)} (step : Step before question? after) :
    before.Keeps after := by
  cases step with
  | request _ request => exact handing_keeps.perform keeps_isAssignable request before
  | progress _ id progress =>
    exact Spares.keeps ⟨Area.retains_updateClass before.area id fun _ => rfl,
      Area.sameKept_setProgress before.area id progress, rfl, Nat.le_refl _, fun _ => rfl⟩
  | count _ listed =>
    refine (spares_count (fun metrics role => ?_) before).keeps
    simp only [List.mem_cons, List.not_mem_nil, or_false] at listed
    rcases listed with rfl | rfl | rfl <;> cases role <;> rfl

theorem Becomes.keeps (becomes : before.Becomes after) : before.Keeps after :=
  becomes.within Step.keeps

theorem canonical_initial (number : Nat) (definitions : List (ClassDefinition ι)) :
    (initial number definitions).Canonical := by
  have empty (subject : Subject) : (initial number definitions).area.kept? subject = none :=
    Area.kept?_initial definitions subject
  constructor
  · intro subject object kept
    cases (empty subject).symm.trans kept
  · intro subject other object twin kept
    cases (empty subject).symm.trans kept
  · intro role
    rw [initial, Area.keptCount_initial]
    cases role <;> rfl

theorem Reachable.canonical (reachable : machine.Reachable) : machine.Canonical := by
  rcases reachable with ⟨number, definitions, becomes⟩
  exact becomes.keeps.canonical (canonical_initial number definitions)

/-! ## Asking again -/

/-- Whoever asks for the object of the subject from now on is given this one, and nothing
is changed by it. -/
def Stands (machine : Machine ι) (subject : Subject) (object : Object) : Prop :=
  ∀ later, machine.Becomes later → (objectOf subject).outcome later = (.ok object, later)

theorem outcome_objectOf_kept (kept : machine.area.kept? subject = some object) :
    (objectOf subject).outcome machine = (.ok object, machine) := by
  have obtains := machine.obtains subject
  generalize (objectOf subject).outcome machine = outcome at obtains ⊢
  cases obtains with
  | absent absent => exact absurd (Area.has_of_kept? kept) absent
  | kept known =>
    cases known.symm.trans kept
    rfl
  | failed empty => cases empty.symm.trans kept
  | made _ empty => cases empty.symm.trans kept

theorem stands_of_kept (kept : machine.area.kept? subject = some object) :
    machine.Stands subject object :=
  fun _ becomes => outcome_objectOf_kept (becomes.keeps.kept kept)

theorem kept_of_objectOf (ended : (objectOf subject).outcome machine = (.ok object, after)) :
    after.area.kept? subject = some object := by
  have spares := spares_load subject.home subject.className machine
  rw [outcome_load] at spares
  have obtains := machine.obtains subject
  rw [ended] at obtains
  cases obtains with
  | kept kept => exact kept
  | made has empty found =>
    rw [found] at spares
    exact (Area.kept?_keep (spares.has has) _ subject).trans (if_pos rfl)

theorem becomes_objectOf (subject : Subject) :
    (objectOf subject : Action (Machine ι) Object).Within Becomes := by
  cases subject with
  | mirror id => exact becomes_perform (.mirror id)
  | handle id => exact becomes_perform (.handle id)
  | pool id => exact becomes_perform (.pool id)

theorem quiet_objectOf (subject : Subject) :
    (objectOf subject : Action (Machine ι) Object).Within Quiet := by
  cases subject with
  | mirror id => exact (Request.mirror id).quiet
  | handle id => exact (Request.handle id).quiet
  | pool id => exact (Request.pool id).quiet

/-- An object that has been handed out for a subject stands for it from then on.  It is an
instance of the class that belongs to its role, and no other subject has it. -/
theorem Reachable.canonical_of_objectOf (reachable : machine.Reachable)
    (ended : (objectOf subject).outcome machine = (.ok object, after)) :
    object.subject? = some subject ∧
      after.area.lookup? subject.home subject.className = some object.type ∧
      (subject.home = .bootstrap → after.area.IsBoot object.type subject.className) ∧
      after.Stands subject object ∧
      ∀ later, after.Becomes later → ∀ other twin last,
        (objectOf other).outcome later = (.ok twin, last) →
          (object.id = twin.id ↔ subject = other) := by
  have kept := kept_of_objectOf ended
  have reachableAfter := reachable.later ((becomes_objectOf subject).related ended)
  rcases reachableAfter.canonical.own kept with ⟨index, type, same, _, answered⟩
  have made : object.type = type := congrArg Object.type same
  refine ⟨congrArg Object.subject? same, made ▸ answered, fun boot => ?_, stands_of_kept kept, ?_⟩
  · rw [boot, ← made] at answered
    exact reachableAfter.booted.own subject.className_ordinary answered
  · intro later onward other twin last asked
    have came := (becomes_objectOf other).related asked
    have keptLast := (trans_of Becomes onward came).keeps.kept kept
    have keptTwin := kept_of_objectOf asked
    have canonical := ((reachableAfter.later onward).later came).canonical
    refine ⟨canonical.apart keptLast keptTwin, ?_⟩
    rintro rfl
    cases keptLast.symm.trans keptTwin
    rfl

/-- A request that fails makes nothing.  At most classes have been loaded for it. -/
theorem spares_of_objectOf_error {fault : Fault}
    (ended : (objectOf subject).outcome machine = (.error fault, after)) :
    after = { machine with area := after.area } ∧ machine.area.SameKept after.area := by
  have obtains := machine.obtains subject
  rw [ended] at obtains
  cases obtains with
  | absent => exact ⟨rfl, refl_of Area.SameKept machine.area⟩
  | failed empty failed =>
    have places := Area.loading_sameKept.load subject.home subject.className machine.area
    rw [failed] at places
    exact ⟨rfl, places⟩

end Machine
end ClassRuntime

import ClassRuntime.Proofs.Machine.Mirrors

namespace ClassRuntime

/-!
# The places of reflective objects

A class has a place for its mirror and one for its constant pool, and a loader has a
place for its handle.  Filling one of them leaves the others alone, and of the three
numbers of filled places it advances one.  Nothing else touches the places: what is
loaded or added has empty ones.
-/

/-! ## What objects stand for -/

/-- What an object can be for its subject. -/
inductive Role where
  | mirror
  | handle
  | pool
  deriving DecidableEq

namespace Subject

/-- What the object is for the subject. -/
def role : Subject → Role
  | .mirror _ => .mirror
  | .handle _ => .handle
  | .pool _ => .pool

/-- The loader through which the class of the object is loaded. -/
def home : Subject → LoaderId
  | .mirror _ => .bootstrap
  | .handle id => id
  | .pool _ => .bootstrap

/-- The name of the class of the object. -/
def className : Subject → ClassName
  | .mirror _ => .mirror
  | .handle _ => .loaderHandle
  | .pool _ => .constantPool

theorem className_ordinary (subject : Subject) : ¬ subject.className.isArray := by
  have ordinary : ∀ name ∈ [ClassName.mirror, ClassName.loaderHandle, ClassName.constantPool],
      ¬ ClassName.isArray name := by decide
  apply ordinary
  cases subject with
  | mirror => simp [className]
  | handle => simp [className]
  | pool => simp [className]

end Subject

namespace Metrics

/-- How many objects of the role have been made. -/
def made (metrics : Metrics) : Role → Nat
  | .mirror => metrics.mirrorsCreated
  | .handle => metrics.handlesCreated
  | .pool => metrics.poolsCreated

/-- Count an object of the role. -/
def countMade : Role → Metrics → Metrics
  | .mirror => countMirror
  | .handle => countHandle
  | .pool => countPool

theorem made_countMade (metrics : Metrics) (role other : Role) :
    (countMade role metrics).made other = metrics.made other + if role = other then 1 else 0 := by
  cases role <;> cases other <;> simp [countMade, made, countMirror, countHandle, countPool]

end Metrics

namespace Area

variable {ι : Type} {area before middle after : Area ι} {subject other : Subject}
  {object : Object}

/-- The class or loader exists. -/
def Has (area : Area ι) : Subject → Prop
  | .mirror id => (area.class? id).isSome
  | .handle id => (area.loader? id).isSome
  | .pool id => (area.class? id).isSome

/-- What is in the place for the object that stands for the subject. -/
def kept? (area : Area ι) : Subject → Option Object
  | .mirror id => area.mirror? id
  | .handle id => (area.loader? id).bind fun loader => loader.handle
  | .pool id => (area.class? id).bind fun loaded => loaded.pool

/-- The area with the object in the place that the subject has for it. -/
def keep (area : Area ι) (object : Object) : Subject → Area ι
  | .mirror id => area.updateClass id fun loaded => { loaded with mirror := some object }
  | .handle id => area.updateLoader id fun loader => { loader with handle := some object }
  | .pool id => area.updateClass id fun loaded => { loaded with pool := some object }

/-- The number of places for the role that are filled. -/
def keptCount (area : Area ι) : Role → Nat
  | .mirror => area.classes.countP fun loaded => loaded.mirror.isSome
  | .handle => area.loaders.toList.countP fun loader => loader.handle.isSome
  | .pool => area.classes.countP fun loaded => loaded.pool.isSome

theorem has_of_kept? (kept : area.kept? subject = some object) : area.Has subject := by
  cases subject <;> rcases Option.bind_eq_some_iff.1 kept with ⟨owner, found, _⟩ <;>
    exact Option.isSome_iff_exists.2 ⟨owner, found⟩

/-! ## Filling a place -/

theorem bind_updateClass {α : Type} (area : Area ι) (id other : ClassId)
    (change : LoadedClass ι → LoadedClass ι) (part : LoadedClass ι → Option α) :
    ((area.updateClass id change).class? other).bind part =
      if id = other then (area.class? other).bind fun loaded => part (change loaded)
      else (area.class? other).bind part := by
  rw [class?_updateClass]
  split
  · rw [Option.bind_map]
    rfl
  · rfl

theorem handle_updateClass (area : Area ι) (id : ClassId) (home : LoaderId)
    (change : LoadedClass ι → LoadedClass ι) :
    (area.updateClass id change).kept? (.handle home) = area.kept? (.handle home) :=
  bind_updateLoader
    (fun loader => { loader with classes := loader.classes.modify id.index change }) (fun _ => rfl)
    area home

/-- Filling one place leaves all others alone. -/
theorem kept?_keep (has : area.Has subject) (object : Object) (other : Subject) :
    (area.keep object subject).kept? other =
      if subject = other then some object else area.kept? other := by
  cases subject with
  | mirror id =>
    rcases Option.isSome_iff_exists.1 has with ⟨loaded, found⟩
    cases other with
    | mirror sought =>
      simp only [kept?, keep, mirror?, bind_updateClass, Subject.mirror.injEq]
      split
      next here => rw [← here, found, Option.bind_some]
      next => rfl
    | handle sought => simp only [keep, handle_updateClass, reduceCtorEq, if_false]
    | pool sought =>
      simp only [kept?, keep, bind_updateClass, ite_self, reduceCtorEq, if_false]
  | handle id =>
    rcases Option.isSome_iff_exists.1 has with ⟨loader, found⟩
    have classes (sought : ClassId) : (area.updateLoader id fun loader =>
        { loader with handle := some object }).class? sought = area.class? sought :=
      class?_updateLoader (fun loader => { loader with handle := some object }) (fun _ => rfl) area
        sought
    cases other with
    | handle sought =>
      simp only [kept?, keep, loader?_updateLoader, Subject.handle.injEq]
      split
      next here => rw [← here, found, Option.map_some, Option.bind_some]
      next => rfl
    | mirror sought => simp only [kept?, keep, mirror?, classes sought, reduceCtorEq, if_false]
    | pool sought => simp only [kept?, keep, classes sought, reduceCtorEq, if_false]
  | pool id =>
    rcases Option.isSome_iff_exists.1 has with ⟨loaded, found⟩
    cases other with
    | pool sought =>
      simp only [kept?, keep, bind_updateClass, Subject.pool.injEq]
      split
      next here => rw [← here, found, Option.bind_some]
      next => rfl
    | handle sought => simp only [keep, handle_updateClass, reduceCtorEq, if_false]
    | mirror sought =>
      simp only [kept?, keep, mirror?, bind_updateClass, ite_self, reduceCtorEq, if_false]

theorem handleCount_eq (area : Area ι) :
    area.keptCount .handle = area.total fun loader => loader.handle.isSome.toNat :=
  countP_eq_sumOver _ _

theorem handleCount_updateLoader (area : Area ι) {id : LoaderId} {change : Loader ι → Loader ι}
    (kept : ∀ loader, (change loader).handle = loader.handle) :
    (area.updateLoader id change).keptCount .handle = area.keptCount .handle := by
  rw [handleCount_eq, handleCount_eq]
  exact total_updateLoader_of_kept area fun loader => by rw [kept]

/-- Of the three counts, filling a place advances the one of its role. -/
theorem keptCount_keep (has : area.Has subject) (empty : area.kept? subject = none)
    (object : Object) (role : Role) :
    (area.keep object subject).keptCount role =
      area.keptCount role + if subject.role = role then 1 else 0 := by
  cases subject with
  | mirror id =>
    rcases Option.isSome_iff_exists.1 has with ⟨loaded, found⟩
    cases role with
    | mirror =>
      have counts := countP_updateClass (fun loaded => loaded.mirror.isSome) found fun loaded =>
        { loaded with mirror := some object }
      rw [kept?, mirror?_eq found] at empty
      simpa [keep, keptCount, Subject.role, empty] using counts
    | handle => exact handleCount_updateLoader area fun _ => rfl
    | pool => exact countP_updateClass_of_kept _ area id fun _ => rfl
  | handle id =>
    rcases Option.isSome_iff_exists.1 has with ⟨loader, known⟩
    cases role with
    | mirror => exact countP_updateLoader _ area fun _ => rfl
    | handle =>
      have counts := total_updateLoader (fun loader => loader.handle.isSome.toNat) known
        fun loader => { loader with handle := some object }
      rw [kept?, known, Option.bind_some] at empty
      rw [handleCount_eq, handleCount_eq]
      simpa [keep, Subject.role, empty] using counts
    | pool => exact countP_updateLoader _ area fun _ => rfl
  | pool id =>
    rcases Option.isSome_iff_exists.1 has with ⟨loaded, found⟩
    cases role with
    | mirror => exact countP_updateClass_of_kept _ area id fun _ => rfl
    | handle => exact handleCount_updateLoader area fun _ => rfl
    | pool =>
      have counts := countP_updateClass (fun loaded => loaded.pool.isSome) found fun loaded =>
        { loaded with pool := some object }
      rw [kept?, found, Option.bind_some] at empty
      simpa [keep, keptCount, Subject.role, empty] using counts

/-! ## The start -/

theorem handle_bootstrap (definitions : List (ClassDefinition ι)) :
    (Loader.bootstrap definitions).handle = none :=
  kept_bootstrap Loader.handle (fun _ _ => rfl) definitions _

theorem kept?_initial (definitions : List (ClassDefinition ι)) (subject : Subject) :
    (initial definitions).kept? subject = none := by
  cases kept : (initial definitions).kept? subject with
  | none => rfl
  | some object =>
    cases subject with
    | mirror id =>
      rcases Option.bind_eq_some_iff.1 kept with ⟨loaded, found, impossible⟩
      rcases class?_initial found with ⟨_, rfl⟩
      cases impossible
    | handle id =>
      rcases Option.bind_eq_some_iff.1 kept with ⟨loader, known, handed⟩
      rw [loader?_initial] at known
      split at known
      · cases known
        cases (handle_bootstrap definitions).symm.trans handed
      · cases known
    | pool id =>
      rcases Option.bind_eq_some_iff.1 kept with ⟨loaded, found, impossible⟩
      rcases class?_initial found with ⟨_, rfl⟩
      cases impossible

theorem keptCount_initial (definitions : List (ClassDefinition ι)) (role : Role) :
    (initial definitions).keptCount role = 0 := by
  have bare (counted : LoadedClass ι → Bool)
      (left : ∀ primitive, counted (.fresh (Loader.primitiveType primitive) none) = false) :
      (initial definitions).classes.countP counted = 0 := by
    simp [classes, initial, Loader.bootstrap, List.countP_eq_zero, left]
  cases role with
  | mirror => exact bare _ fun _ => rfl
  | handle => simp [keptCount, initial, handle_bootstrap]
  | pool => exact bare _ fun _ => rfl

/-! ## What leaves all places alone -/

/-- The places are filled as before. -/
structure SameKept (before after : Area ι) : Prop where
  kept : ∀ subject, after.kept? subject = before.kept? subject
  counts : ∀ role, after.keptCount role = before.keptCount role

instance : IsPreorder (Area ι) SameKept where
  refl _ := ⟨fun _ => rfl, fun _ => rfl⟩
  trans _ _ _ first second := ⟨fun subject => (second.kept subject).trans (first.kept subject),
    fun role => (second.counts role).trans (first.counts role)⟩

theorem sameKept_updateLoader (area : Area ι) {id : LoaderId} (change : Loader ι → Loader ι)
    (classes : ∀ loader, (change loader).classes = loader.classes)
    (handles : ∀ loader, (change loader).handle = loader.handle) :
    area.SameKept (area.updateLoader id change) := by
  have same (sought : ClassId) :
      (area.updateLoader id change).class? sought = area.class? sought :=
    class?_updateLoader change classes area sought
  constructor
  · intro subject
    cases subject with
    | mirror sought => rw [kept?, kept?, mirror?, mirror?, same]
    | handle sought => exact bind_updateLoader change handles area sought
    | pool sought => rw [kept?, kept?, same]
  · have counts (counted : LoadedClass ι → Bool) :
        (area.updateLoader id change).classes.countP counted = area.classes.countP counted :=
      countP_updateLoader counted area fun loader => by rw [countedAt, countedAt, classes]
    intro role
    cases role with
    | mirror => exact counts _
    | handle => exact handleCount_updateLoader area handles
    | pool => exact counts _

/-- A class that has just been linked has nothing in its places. -/
theorem sameKept_push {id : LoaderId} {loader : Loader ι} (known : area.loader? id = some loader)
    (type : TypeDescriptor) (initializer : Option ι) :
    area.SameKept (area.updateLoader id fun loader => loader.push (.fresh type initializer)) := by
  have bare {α : Type} (part : LoadedClass ι → Option α)
      (none : part (.fresh type initializer) = none) (sought : ClassId) :
      ((area.updateLoader id fun loader =>
        loader.push (.fresh type initializer)).class? sought).bind part =
          (area.class? sought).bind part := by
    rw [class?_push known]
    split
    next here => rw [here, class?_next known, Option.bind_some, Option.bind_none, none]
    next => rfl
  constructor
  · intro subject
    cases subject with
    | mirror sought => exact bare _ rfl sought
    | handle sought =>
      exact bind_updateLoader (fun loader => loader.push (.fresh type initializer)) (fun _ => rfl)
        area sought
    | pool sought => exact bare _ rfl sought
  · intro role
    cases role with
    | mirror => exact countP_push _ area id rfl
    | handle => exact handleCount_updateLoader area fun _ => rfl
    | pool => exact countP_push _ area id rfl

theorem loading_sameKept :
    Loading fun α (action : Action (Area ι) α) => action.Within SameKept :=
  .within sameKept_push
    (fun area _ name found => sameKept_updateLoader area (fun loader => loader.answer name found)
      (fun _ => rfl) fun _ => rfl)
    (fun area _ name => sameKept_updateLoader area (fun loader => loader.mark name)
      (fun _ => rfl) fun _ => rfl)
    fun area _ name => sameKept_updateLoader area (fun loader => loader.unmark name)
      (fun _ => rfl) fun _ => rfl

theorem sameKept_addLoader (name : String) (source : Source) (parent : Option LoaderId) :
    (addLoader name source parent : Action (Area ι) LoaderId).Within SameKept := by
  intro area
  have added := loader?_addLoader area name source parent
  have bare {α : Type} (part : Loader ι → Option α)
      (none : part (.create name source (some (parent.getD .bootstrap))) = none) (id : LoaderId) :
      (((addLoader name source parent).outcome area).2.loader? id).bind part =
        (area.loader? id).bind part := by
    rw [added]
    split
    next last =>
      have unknown : area.loader? id = Option.none :=
        Array.getElem?_eq_none (Nat.le_of_eq last.symm)
      rw [unknown, Option.bind_some, Option.bind_none, none]
    next => rfl
  have classes (id : ClassId) : ((addLoader name source parent).outcome area).2.class? id =
      area.class? id := bare _ rfl id.loader
  constructor
  · intro subject
    cases subject with
    | mirror sought => rw [kept?, kept?, mirror?, mirror?, classes]
    | handle sought => exact bare _ rfl sought
    | pool sought => rw [kept?, kept?, classes]
  · intro role
    cases role with
    | mirror => exact countP_addLoader _ name source parent area
    | handle =>
      simp [keptCount, addLoader, Loader.create]
    | pool => exact countP_addLoader _ name source parent area

theorem sameKept_addDefinition (id : LoaderId) (definition : ClassDefinition ι) :
    (addDefinition id definition).Within SameKept := by
  intro area
  rw [outcome_addDefinition]
  exact sameKept_updateLoader area (fun loader => loader.addDefinition definition) (fun _ => rfl)
    fun _ => rfl

theorem sameKept_setProgress (area : Area ι) (id : ClassId) (progress : Progress) :
    area.SameKept (area.updateClass id fun loaded => { loaded with progress }) := by
  constructor
  · intro subject
    cases subject with
    | mirror sought => exact (bind_updateClass area id sought _ _).trans (ite_self _)
    | handle home => exact handle_updateClass area id home _
    | pool sought => exact (bind_updateClass area id sought _ _).trans (ite_self _)
  · intro role
    cases role with
    | mirror => exact countP_updateClass_of_kept _ area id fun _ => rfl
    | handle => exact handleCount_updateLoader area fun _ => rfl
    | pool => exact countP_updateClass_of_kept _ area id fun _ => rfl

end Area
end ClassRuntime

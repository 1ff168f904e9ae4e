import ClassRuntime.Proofs.Loader.Composition
import ClassRuntime.Proofs.Loader.Reachable

namespace ClassRuntime

/-!
# Quiet changes

A class that has been loaded keeps its type and its initializer, and how far
its initialization has come changes only when somebody sets it.  A change of an
area is quiet if nobody does: the classes that are there stay as they are but
for the objects that stand for them, and new classes have not started.  Loading
is quiet in all its parts, with any outcome and from any area.
-/

namespace LoadedClass

variable {ι : Type}

/-- The class without the objects that stand for it. -/
def bare (loaded : LoadedClass ι) : LoadedClass ι :=
  { loaded with mirror := none, pool := none }

/-- Whether the class has an initializer and its initialization has started. -/
def hasBegun (loaded : LoadedClass ι) : Bool :=
  loaded.initializer.isSome && !loaded.progress.isNotStarted

section Bare

variable {later loaded : LoadedClass ι}

theorem type_of_bare (same : later.bare = loaded.bare) :
    later.toTypeDescriptor = loaded.toTypeDescriptor := by
  have types := congrArg (fun loaded => loaded.toTypeDescriptor) same
  exact types

theorem initializer_of_bare (same : later.bare = loaded.bare) :
    later.initializer = loaded.initializer := by
  have initializers := congrArg (fun loaded => loaded.initializer) same
  exact initializers

theorem progress_of_bare (same : later.bare = loaded.bare) :
    later.progress = loaded.progress := by
  have stages := congrArg (fun loaded => loaded.progress) same
  exact stages

theorem hasBegun_of_bare (same : later.bare = loaded.bare) :
    later.hasBegun = loaded.hasBegun := by
  rw [hasBegun, hasBegun, initializer_of_bare same, progress_of_bare same]

end Bare

end LoadedClass

namespace Area

variable {ι : Type} {before middle after area : Area ι}

/-- All classes of all loaders. -/
def classes (area : Area ι) : List (LoadedClass ι) :=
  area.loaders.toList.flatMap fun loader => loader.classes.toList

/-- The number of classes with an initializer whose initialization has
started. -/
def begun (area : Area ι) : Nat :=
  area.classes.countP LoadedClass.hasBegun

/-- How far the initialization of a class has come.  A class that is not there
has not started. -/
def progress (area : Area ι) (id : ClassId) : Progress :=
  ((area.class? id).map fun loaded => loaded.progress).getD .notStarted

/-- The second class is the superclass of the first. -/
def Extends (area : Area ι) (id superclass : ClassId) : Prop :=
  ∃ loaded, area.class? id = some loaded ∧ loaded.superclass = some superclass

/-- A change that does not concern initialization. -/
structure Quiet (before after : Area ι) : Prop where
  kept : ∀ {id loaded}, before.class? id = some loaded →
    ∃ later, after.class? id = some later ∧ later.bare = loaded.bare
  fresh : ∀ {id later}, before.class? id = none → after.class? id = some later →
    later.progress = .notStarted
  begun : after.begun = before.begun

theorem progress_eq {id : ClassId} {loaded : LoadedClass ι}
    (found : area.class? id = some loaded) : area.progress id = loaded.progress := by
  rw [progress, found, Option.map_some, Option.getD_some]

theorem progress_unknown {id : ClassId} (unknown : area.class? id = none) :
    area.progress id = .notStarted := by
  rw [progress, unknown, Option.map_none, Option.getD_none]

/-- A class that has started is there. -/
theorem class?_of_started {id : ClassId} (started : area.progress id ≠ .notStarted) :
    ∃ loaded, area.class? id = some loaded := by
  cases found : area.class? id with
  | none => exact absurd (progress_unknown found) started
  | some loaded => exact ⟨loaded, rfl⟩

/-! ## Counting classes -/

/-- How many classes of a loader are counted. -/
def countedAt (counted : LoadedClass ι → Bool) (loader : Loader ι) : Nat :=
  loader.classes.toList.countP counted

section Count

variable (counted : LoadedClass ι → Bool)

theorem countP_classes (area : Area ι) :
    area.classes.countP counted = area.total (countedAt counted) :=
  countP_flatMap counted _ _

theorem countP_updateLoader (area : Area ι) {id : LoaderId} {change : Loader ι → Loader ι}
    (kept : ∀ loader, countedAt counted (change loader) = countedAt counted loader) :
    (area.updateLoader id change).classes.countP counted = area.classes.countP counted := by
  rw [countP_classes, countP_classes]
  exact total_updateLoader_of_kept area kept

theorem countP_push (area : Area ι) (id : LoaderId) {loaded : LoadedClass ι}
    (left : counted loaded = false) :
    (area.updateLoader id fun loader => loader.push loaded).classes.countP counted =
      area.classes.countP counted := by
  apply countP_updateLoader
  intro loader
  simp [countedAt, Loader.push, List.countP_append, left]

/-- A count of classes sees the change of one class alone. -/
theorem countP_updateClass {id : ClassId} {loaded : LoadedClass ι}
    (found : area.class? id = some loaded) (change : LoadedClass ι → LoadedClass ι) :
    (area.updateClass id change).classes.countP counted + (counted loaded).toNat =
      area.classes.countP counted + (counted (change loaded)).toNat := by
  rcases Option.bind_eq_some_iff.1 found with ⟨loader, known, place⟩
  have sums := total_updateLoader (countedAt counted) known fun loader =>
    { loader with classes := loader.classes.modify id.index change }
  have listed : loader.classes.toList[id.index]? = some loaded := by
    rw [Array.getElem?_toList]
    exact place
  have counts := countP_modify counted change listed
  rw [countP_classes, countP_classes, updateClass]
  simp only [countedAt, Array.toList_modify] at sums
  omega

theorem countP_updateClass_of_kept (area : Area ι) (id : ClassId)
    {change : LoadedClass ι → LoadedClass ι}
    (kept : ∀ loaded, counted (change loaded) = counted loaded) :
    (area.updateClass id change).classes.countP counted = area.classes.countP counted := by
  apply countP_updateLoader
  intro loader
  rw [countedAt, countedAt, Array.toList_modify]
  exact countP_modify_of_kept kept _ _

theorem countP_addLoader (name : String) (source : Source) (parent : Option LoaderId)
    (area : Area ι) :
    ((addLoader name source parent).outcome area).2.classes.countP counted =
      area.classes.countP counted := by
  rw [countP_classes, countP_classes, addLoader, Action.outcome_modifyGet, total, total,
    Array.toList_push, sumOver_append]
  rfl

end Count

namespace Quiet

theorem refl (area : Area ι) : Quiet area area where
  kept found := ⟨_, found, rfl⟩
  fresh unknown found := by
    rw [unknown] at found
    cases found
  begun := rfl

theorem trans (first : before.Quiet middle) (second : middle.Quiet after) :
    before.Quiet after where
  kept found := by
    rcases first.kept found with ⟨between, foundBetween, same⟩
    rcases second.kept foundBetween with ⟨later, foundLater, sameLater⟩
    exact ⟨later, foundLater, sameLater.trans same⟩
  fresh {id later} unknown found := by
    cases between : middle.class? id with
    | none => exact second.fresh between found
    | some loaded =>
      rcases second.kept between with ⟨other, foundOther, same⟩
      have equal : other = later := Option.some.inj (foundOther.symm.trans found)
      rw [← equal, LoadedClass.progress_of_bare same]
      exact first.fresh unknown between
  begun := second.begun.trans first.begun

theorem progress (quiet : before.Quiet after) (id : ClassId) :
    after.progress id = before.progress id := by
  cases found : before.class? id with
  | some loaded =>
    rcases quiet.kept found with ⟨later, foundLater, same⟩
    rw [progress_eq found, progress_eq foundLater, LoadedClass.progress_of_bare same]
  | none =>
    rw [progress_unknown found]
    cases foundLater : after.class? id with
    | none => exact progress_unknown foundLater
    | some later =>
      rw [progress_eq foundLater]
      exact quiet.fresh found foundLater

instance : IsPreorder (Area ι) Quiet where
  refl := refl
  trans _ _ _ := trans

end Quiet

/-! ## The elementary changes -/

/-- A change of a loader that leaves its classes alone is quiet. -/
theorem quiet_updateLoader (area : Area ι) (id : LoaderId) (change : Loader ι → Loader ι)
    (kept : ∀ loader, (change loader).classes = loader.classes) :
    area.Quiet (area.updateLoader id change) where
  kept found := ⟨_, (class?_updateLoader change kept area _).trans found, rfl⟩
  fresh unknown found := by
    rw [class?_updateLoader change kept, unknown] at found
    cases found
  begun := countP_updateLoader _ area fun loader => by rw [countedAt, countedAt, kept]

/-- A new class has not started. -/
theorem quiet_push (area : Area ι) (id : LoaderId) (type : TypeDescriptor)
    (initializer : Option ι) :
    area.Quiet (area.updateLoader id fun loader => loader.push (.fresh type initializer)) := by
  cases known : area.loader? id with
  | none =>
    rw [updateLoader_of_unknown known]
    exact Quiet.refl area
  | some loader =>
    constructor
    · intro other loaded found
      have different : other ≠ ⟨id, loader.classes.size⟩ := by
        intro same
        rw [same, class?_next known] at found
        cases found
      rw [class?_push known, if_neg different]
      exact ⟨loaded, found, rfl⟩
    · intro other later unknown found
      rw [class?_push known] at found
      split at found
      · cases found
        rfl
      · rw [unknown] at found
        cases found
    · refine countP_push _ area id ?_
      simp [LoadedClass.hasBegun, LoadedClass.fresh, Progress.isNotStarted]

/-- Taking note of an object that stands for a class is quiet. -/
theorem quiet_updateClass (area : Area ι) (id : ClassId)
    (change : LoadedClass ι → LoadedClass ι)
    (kept : ∀ loaded, (change loaded).bare = loaded.bare) :
    area.Quiet (area.updateClass id change) := by
  constructor
  · intro other loaded found
    rw [class?_updateClass, found]
    split
    · exact ⟨change loaded, rfl, kept loaded⟩
    · exact ⟨loaded, rfl, rfl⟩
  · intro other later unknown found
    rw [class?_updateClass, unknown] at found
    split at found
    · cases found
    · cases found
  · exact countP_updateClass_of_kept _ area id fun loaded =>
      LoadedClass.hasBegun_of_bare (kept loaded)

/-! ## Loading -/

theorem quiet_getLoader (id : LoaderId) : (getLoader id : Action (Area ι) _).Within Quiet := by
  unfold getLoader
  exact .bind .get fun _ => .ofExcept _

theorem quiet_getClass (id : ClassId) : (getClass id : Action (Area ι) _).Within Quiet := by
  unfold getClass
  exact .bind .get fun _ => .ofExcept _

theorem loading_quiet : Loading fun α (action : Action (Area ι) α) => action.Within Quiet :=
  .within (fun _ => quiet_push _ _)
    (fun area id name found =>
      quiet_updateLoader area id (fun loader => loader.answer name found) fun _ => rfl)
    (fun area id name => quiet_updateLoader area id (fun loader => loader.mark name) fun _ => rfl)
    fun area id name => quiet_updateLoader area id (fun loader => loader.unmark name) fun _ => rfl

/-! ## Loaders and definitions -/

theorem quiet_addLoader (name : String) (source : Source) (parent : Option LoaderId) :
    (addLoader name source parent : Action (Area ι) LoaderId).Within Quiet := by
  intro area
  constructor
  · intro id loaded found
    rcases Option.bind_eq_some_iff.1 found with ⟨loader, known, _⟩
    rw [class?_eq (loader?_addLoader_of_known name source parent known), ← class?_eq known]
    exact ⟨loaded, found, rfl⟩
  · intro id later unknown found
    rw [class?, loader?_addLoader] at found
    split at found
    · cases found
    · rw [← class?, unknown] at found
      cases found
  · exact countP_addLoader _ name source parent area

theorem quiet_addDefinition (id : LoaderId) (definition : ClassDefinition ι) :
    (addDefinition id definition).Within Quiet := by
  unfold addDefinition
  apply Action.Within.bind (quiet_getLoader id)
  intro loader area
  exact quiet_updateLoader area id (fun loader => loader.addDefinition definition) fun _ => rfl

end Area
end ClassRuntime

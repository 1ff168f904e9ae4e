import ClassRuntime.Proofs.Machine.Canonical
import ClassRuntime.Proofs.Machine.Safety
import ClassRuntime.Proofs.Native.Mirrors

namespace ClassRuntime
namespace Native

/-!
# Natives that hand out objects of other classes

Two natives hand out an object whose class has to be ready: the handle of a loader and
the constant pool of a class.  Both do the same once they know for which subject the
object stands.  They ask for the class of the object, are put off if it is pending, and
otherwise ask for the object.

Of the class that its receiver mirrors, the native that hands out loaders looks at the
source and at the place.  Whatever else distinguishes two classes, it does not see.
-/

variable {ι : Type} {site : CallSite} {id : ClassId} {type : TypeDescriptor}
  {invocation : Invocation ι}

/-- Hand out the object that stands for the subject, once its class is ready. -/
def handOut (subject : Subject) : Action (Invocation ι) Outcome := do
  match ← onMachine (pendingInitialization subject.home subject.className) with
  | some dependency => defer dependency
  | none => do
    let object ← onMachine (Machine.objectOf subject)
    answer (.reference (some object))

/-- What the native that hands out loaders does for a class, given its source and the
loader that has defined it. -/
def handOutLoader (source : Source) (home : LoaderId) : Action (Invocation ι) Outcome :=
  if source = .bootPath then answer (.reference none) else handOut (.handle home)

theorem outcome_onMachine {α : Type} (action : Action (Machine ι) α) (invocation : Invocation ι) :
    (onMachine action).outcome invocation =
      ((action.outcome invocation.machine).1,
        { invocation with machine := (action.outcome invocation.machine).2 }) :=
  rfl

theorem becomes_pendingInitialization (home : LoaderId) (name : ClassName) :
    (pendingInitialization home name : Action (Machine ι) _).Within Machine.Becomes := by
  refine .bind (Machine.becomes_perform (.load home name)) fun id =>
    .bind (Machine.becomes_getClass id) fun loaded => ?_
  split
  · exact .fail _
  · split
    · exact .pure _
    · exact .pure _

/-! ## What handing out comes to -/

section HandOut

variable {machine middle : Machine ι} {after : Invocation ι} {home : LoaderId} {name : ClassName}
  {subject : Subject} {loaded : LoadedClass ι}

/-- A class that is not waited for is initialized or being initialized. -/
theorem started_of_pending
    (asked : (pendingInitialization home name).outcome machine = (.ok none, middle)) :
    ∃ id, (Area.load home name).outcome machine.area = (.ok id, middle.area) ∧
      (middle.area.progress id = .initialized ∨
        ∃ owner, middle.area.progress id = .inProgress owner) := by
  unfold pendingInitialization at asked
  rcases Action.bind_ok asked with ⟨id, later, loads, rest⟩
  rcases Action.bind_ok rest with ⟨loaded, last, looked, answered⟩
  rw [Machine.outcome_getClass, Prod.mk.injEq] at looked
  rcases looked with ⟨read, rfl⟩
  have stands := Area.progress_eq (Area.class?_of_loadedClass read)
  split at answered
  · cases answered
  next sound =>
    split at answered
    · cases answered
    next started =>
      cases answered
      refine ⟨id, Machine.area_load_of_load loads, ?_⟩
      rw [stands]
      cases stage : loaded.progress with
      | notStarted => exact absurd (decide_eq_true stage) started
      | failed => exact absurd (decide_eq_true stage) sound
      | initialized => exact Or.inl rfl
      | inProgress owner => exact Or.inr ⟨owner, rfl⟩

/-- A class that has been found before is looked at without any change. -/
theorem outcome_pendingInitialization
    (answered : machine.area.lookup? home name = some id)
    (found : machine.area.class? id = some loaded) :
    (pendingInitialization home name).outcome machine =
      (if loaded.progress.isFailed then .error (.error (.erroneous loaded.name))
        else if loaded.progress.isNotStarted then .ok (some id) else .ok none, machine) := by
  rw [pendingInitialization, Action.outcome_bind, Machine.outcome_load_answered answered]
  dsimp only
  rw [Action.outcome_bind, Machine.outcome_getClass, Area.loadedClass_eq_ok found]
  dsimp only
  split
  · rfl
  · split
    · rfl
    · rfl

theorem outcome_handOut_of_failed
    (answered : invocation.machine.area.lookup? subject.home subject.className = some id)
    (found : invocation.machine.area.class? id = some loaded)
    (failed : loaded.progress = .failed) :
    (handOut subject).outcome invocation =
      (.error (.error (.erroneous loaded.name)), invocation) := by
  rw [handOut, Action.outcome_bind, outcome_onMachine,
    outcome_pendingInitialization answered found, failed]
  rfl

theorem outcome_handOut_of_unstarted
    (answered : invocation.machine.area.lookup? subject.home subject.className = some id)
    (found : invocation.machine.area.class? id = some loaded)
    (unstarted : loaded.progress = .notStarted) :
    (handOut subject).outcome invocation =
      (.ok (.deferred id), { invocation with operands := invocation.operands.rewind }) := by
  rw [handOut, Action.outcome_bind, outcome_onMachine,
    outcome_pendingInitialization answered found, unstarted]
  rfl

theorem pending_of_handOut
    (ended : (handOut subject).outcome invocation = (.ok (.deferred id), after)) :
    (pendingInitialization subject.home subject.className).outcome invocation.machine =
      (.ok (some id), after.machine) := by
  rcases Action.bind_ok ended with ⟨pending, middle, asked, rest⟩
  rcases deferred_of_pending rest with ⟨rfl, same⟩
  rw [same]
  exact onMachine_ok asked

/-- An object is handed out once its class has started. -/
theorem object_of_handOut
    (ended : (handOut subject).outcome invocation = (.ok .complete, after)) :
    ∃ middle object,
      (pendingInitialization subject.home subject.className).outcome invocation.machine =
        (.ok none, middle) ∧
      (Machine.objectOf subject).outcome middle = (.ok object, after.machine) ∧
      after.operands = invocation.operands.push (.reference (some object)) := by
  rw [handOut, Action.outcome_bind, outcome_onMachine] at ended
  rcases asked : (pendingInitialization subject.home subject.className).outcome
      invocation.machine with ⟨fault | pending, middle⟩
  · rw [asked] at ended
    cases ended
  · rw [asked] at ended
    cases pending with
    | some dependency => cases ended
    | none =>
      dsimp only at ended
      rw [Action.outcome_bind, outcome_onMachine] at ended
      dsimp only at ended
      rcases given : (Machine.objectOf subject).outcome middle with ⟨fault | object, last⟩
      · rw [given] at ended
        cases ended
      · rw [given] at ended
        cases ended
        exact ⟨middle, object, rfl, given, rfl⟩

/-- The class of an object that is handed out is the one that has been asked for, and is
initialized or being initialized. -/
theorem started_of_objectOf {object : Object} {last : Machine ι} (reachable : machine.Reachable)
    (asked : (pendingInitialization subject.home subject.className).outcome machine =
      (.ok none, middle))
    (given : (Machine.objectOf subject).outcome middle = (.ok object, last)) :
    last.area.progress object.type = .initialized ∨
      ∃ owner, last.area.progress object.type = .inProgress owner := by
  have onward := (Machine.becomes_objectOf subject).related given
  have came := (becomes_pendingInitialization _ _).related asked
  rcases (reachable.later came).canonical_of_objectOf given with ⟨_, found, _⟩
  rcases started_of_pending asked with ⟨id, loads, started⟩
  have answered := onward.retains.answer (Area.lookup?_of_load loads)
  have quiet := (Machine.quiet_objectOf subject).related given
  cases answered.symm.trans found
  rwa [quiet.area.progress]

end HandOut

/-! ## The natives hand out objects -/

theorem outcome_getConstantPool (mirrors : site.receiver? = some id)
    (known : (invocation.machine.area.class? id).isSome) :
    (getConstantPool site).outcome invocation = (handOut (.pool id)).outcome invocation := by
  rw [getConstantPool, Action.outcome_bind, outcome_receiver_known mirrors known]
  rfl

/-- The loader of a class that exists. -/
theorem outcome_classLoader {machine : Machine ι}
    (typed : machine.area.type? id = some type) :
    (Machine.classLoader id).outcome machine =
      (if type.source = .bootPath then (pure none : Action (Machine ι) Reference)
        else some <$> Machine.handleOf id.loader).outcome machine := by
  rcases Area.class?_of_type? typed with ⟨loaded, found, rfl⟩
  rw [Machine.classLoader, Action.outcome_bind, Machine.outcome_getClass,
    Area.loadedClass_eq_ok found]

/-- The receiver is looked at again after the class of the object has been asked for, and
is still the same. -/
theorem outcome_getClassLoader (mirrors : site.receiver? = some id)
    (typed : invocation.machine.area.type? id = some type) :
    (getClassLoader site).outcome invocation =
      (handOutLoader type.source id.loader).outcome invocation := by
  rcases Area.class?_of_type? typed with ⟨loaded, found, rfl⟩
  rw [getClassLoader, Action.outcome_bind,
    outcome_receiver_known mirrors (Option.isSome_iff_exists.2 ⟨loaded, found⟩)]
  dsimp only
  rw [Action.outcome_bind, outcome_onMachine, Machine.outcome_getClass,
    Area.loadedClass_eq_ok found]
  dsimp only
  by_cases boot : loaded.source = .bootPath
  · rw [handOutLoader, if_pos boot, if_pos boot, pure_bind]
    dsimp only
    rw [Action.outcome_bind, outcome_onMachine, outcome_classLoader typed, if_pos boot]
    rfl
  · rw [handOutLoader, if_neg boot, if_neg boot, handOut, Action.outcome_bind, Action.outcome_bind,
      outcome_onMachine, outcome_onMachine]
    dsimp only [Subject.home, Subject.className, Machine.objectOf]
    rcases asked : (pendingInitialization id.loader .loaderHandle).outcome invocation.machine with
      ⟨fault | pending, later⟩
    · rfl
    · cases pending with
      | some dependency => rfl
      | none =>
        have becomes := (becomes_pendingInitialization _ _).related asked
        dsimp only
        rw [Action.outcome_bind, Action.outcome_bind, outcome_onMachine, outcome_onMachine]
        dsimp only
        rw [outcome_classLoader (becomes.retains.type typed), if_neg boot, map_eq_pure_bind,
          Action.outcome_bind]
        rcases (Machine.handleOf id.loader).outcome later with ⟨fault | object, last⟩
        · rfl
        · rfl

/-- Called on a mirror of the class, the method hands out the object that stands for the
subject. -/
inductive Exposes (area : Area ι) (id : ClassId) : MethodKey → Subject → Prop
  | handle {type : TypeDescriptor} (typed : area.type? id = some type)
      (own : type.source ≠ .bootPath) :
      Exposes area id ⟨.mirror, "getClassLoader0", "()Ljava/lang/ClassLoader;"⟩ (.handle id.loader)
  | pool (known : (area.class? id).isSome) :
      Exposes area id ⟨.mirror, "getConstantPool", "()Lsun/reflect/ConstantPool;"⟩ (.pool id)

/-- In this call the native does nothing but to hand out the object that stands for the
subject, now and at any later time. -/
def Hands (native : Native ι) (site : CallSite) (subject : Subject) (machine : Machine ι) : Prop :=
  ∀ invocation : Invocation ι, machine.Becomes invocation.machine →
    (native site).outcome invocation = (handOut subject).outcome invocation

theorem Hands.later {native : Native ι} {subject : Subject} {before after : Machine ι}
    (hands : native.Hands site subject before) (becomes : before.Becomes after) :
    native.Hands site subject after :=
  fun invocation onward => hands invocation (trans_of Machine.Becomes becomes onward)

theorem Exposes.hands {machine : Machine ι} {key : MethodKey} {subject : Subject}
    (exposes : Exposes machine.area id key subject) {mirror : Object}
    (mirrors : mirror.mirrored? = some id) :
    ∃ native, (key, native) ∈ (builtins : List (MethodKey × Native ι)) ∧ ∀ thread place,
      native.Hands ⟨thread, key, [.reference (some mirror)], place⟩ subject machine := by
  have received (thread : ThreadId) (place : Nat) :
      (CallSite.mk thread key [.reference (some mirror)] place).receiver? = some id := mirrors
  cases exposes with
  | handle typed own =>
    refine ⟨getClassLoader, by simp [builtins, declared], fun thread place invocation becomes => ?_⟩
    rw [outcome_getClassLoader (received thread place) (becomes.retains.type typed),
      handOutLoader, if_neg own]
  | pool known =>
    exact ⟨getConstantPool, by simp [builtins, declared], fun thread place invocation becomes =>
      outcome_getConstantPool (received thread place) (becomes.retains.isSome known)⟩

end Native
end ClassRuntime

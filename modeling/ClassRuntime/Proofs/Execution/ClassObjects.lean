import ClassRuntime.Proofs.Execution.Assignability
import ClassRuntime.Proofs.Execution.Course
import ClassRuntime.Proofs.Native.ClassObjects

namespace ClassRuntime

/-!
# Canonical objects in runs

A program tells classes apart by their mirrors.  It comes by them in several ways: it
asks for the mirror of a class, or it calls a native that hands out mirrors.  In between,
initializers run, which may ask for the same mirrors, and loads fail or bring further
classes with them.  Each class has one mirror nevertheless, and it is this one that is
seen everywhere from the first time on.  The same is true of the handles of loaders and
of constant pools.
-/

variable {ι σ : Type}

namespace Executor

variable {executor : Executor ι σ} {thread : ThreadId} {key : MethodKey}
  {session after : Session ι σ}

/-- What a native that is never put off answers is the result of its call. -/
theorem answers_of_invokeIn (holds : executor.registry.HoldsBuiltins)
    (handing : key ∈ Native.classMethods) {frame left : Frame}
    (ended : (executor.invokeIn thread key frame).outcome session = (.ok (.ok (), left), after)) :
    ∃ target, left.operands = Operands.empty.push (.reference target) ∧
      Native.Answers ⟨thread, key, frame.arguments, frame.place⟩ session.machine.area
        after.machine key target := by
  rcases Native.listed_of_classMethods handing with ⟨native, listed⟩
  rcases holds key native listed with ⟨descriptor, _, registered⟩
  let site : CallSite := ⟨thread, key, frame.arguments, frame.place⟩
  let entry : RegistryEntry (Native ι) := ⟨native, descriptor⟩
  let call : Call ι σ := ⟨session, frame.operands⟩
  have gives := Native.handsOut_builtin listed handing site
    (session.counted Metrics.countDispatch).machine
  have dispatched := Dispatch.outcome_of entry site call
  have prompt (dependency : ClassId) :
      (Dispatch.of entry site call).decision ≠ .ok (.deferred dependency) := by
    intro decided
    rw [decided] at dispatched
    cases (gives _ _ dispatched).1
  rcases completed : (Call.complete executor.initClass entry site executor.limit []).outcome call
    with ⟨result, last⟩
  rw [executor.outcome_invokeIn registered completed] at ended
  cases ended
  rcases Call.completed_of_prompt prompt completed with ⟨decided, rfl⟩
  rw [decided] at dispatched
  exact (gives _ _ dispatched).2

theorem answers_of_invoke (holds : executor.registry.HoldsBuiltins)
    (handing : key ∈ Native.classMethods) {arguments : Arguments} {value? : Option Value}
    (ended : (executor.invoke thread key arguments).outcome session = (.ok value?, after)) :
    ∃ target, value? = some (.reference target) ∧
      Native.Answers ⟨thread, key, arguments, 0⟩ session.machine.area after.machine key target := by
  rcases Action.bind_ok ended with ⟨⟨result, left⟩, middle, invoked, rest⟩
  rcases Action.bind_ok rest with ⟨_, last, fine, given⟩
  cases result with
  | error fault => cases fine
  | ok =>
    cases fine
    cases given
    rcases answers_of_invokeIn holds handing invoked with ⟨target, pushed, answers⟩
    refine ⟨target, ?_, answers⟩
    rw [pushed]
    rfl

end Executor

namespace Setting

/-- The machines of a run come about one from another, and what is asked of any of them
is answered by canonical objects. -/
theorem run_objects_canonical (setting : Setting ι σ) (holds : setting.registry.HoldsBuiltins)
    (number : Nat) (definitions : List (ClassDefinition ι)) (state : σ) (depth : Nat)
    (tasks : List (Task ι)) :
    let last := ((setting.run depth tasks).outcome (start number definitions state)).2
    last.Ordered ∧ ∀ machine ∈ last.machines,
      (machine.metrics.mirrorsCreated =
          machine.area.classes.countP (fun loaded => loaded.mirror.isSome) ∧
        machine.metrics.handlesCreated =
          machine.area.loaders.toList.countP (fun loader => loader.handle.isSome) ∧
        machine.metrics.poolsCreated =
          machine.area.classes.countP (fun loaded => loaded.pool.isSome)) ∧
      (∀ subject object after, (Machine.objectOf subject).outcome machine = (.ok object, after) →
        object.subject? = some subject ∧
        after.area.lookup? subject.home subject.className = some object.type ∧
        (subject.home = .bootstrap → after.area.IsBoot object.type subject.className) ∧
        after.Stands subject object ∧
        ∀ later, after.Becomes later → ∀ other twin final,
          (Machine.objectOf other).outcome later = (.ok twin, final) →
            (object.id = twin.id ↔ subject = other)) ∧
      (∀ subject fault after, (Machine.objectOf subject).outcome machine = (.error fault, after) →
        after = { machine with area := after.area } ∧ machine.area.SameKept after.area) ∧
      ∀ nested thread key (session : Session ι (Recorded ι σ)), session.machine = machine →
        key ∈ Native.classMethods →
        (∀ arguments value? after,
          ((setting.executor nested).invoke thread key arguments).outcome session =
              (.ok value?, after) →
            ∃ target, value? = some (.reference target) ∧
              Native.Answers ⟨thread, key, arguments, 0⟩ machine.area after.machine key target) ∧
        ∀ frame left after,
          ((setting.executor nested).invokeIn thread key frame).outcome session =
              (.ok (.ok (), left), after) →
            ∃ target, left.operands = Operands.empty.push (.reference target) ∧
              Native.Answers ⟨thread, key, frame.arguments, frame.place⟩ machine.area
                after.machine key target := by
  intro last
  refine ⟨ordered_run setting number definitions state depth tasks, fun machine seen => ?_⟩
  have reachable : machine.Reachable :=
    ⟨number, definitions, becomes_of_run setting number definitions state depth tasks seen⟩
  have counted := reachable.canonical.counted
  refine ⟨⟨counted .mirror, counted .handle, counted .pool⟩, ?_, ?_, ?_⟩
  · intro subject object after ended
    exact reachable.canonical_of_objectOf ended
  · intro subject fault after ended
    exact Machine.spares_of_objectOf_error ended
  · rintro nested thread key session rfl handing
    constructor
    · intro arguments value? after ended
      exact Executor.answers_of_invoke holds handing ended
    · intro frame left after ended
      exact Executor.answers_of_invokeIn holds handing ended

/-- The case of a run in which a program has made an object of its own that claims to be
the mirror of the root.  Another one of this kind is passed to a native, which asks for
the superclass and finds the mirror of the root that the machine has made. -/
theorem run_objects_canonical_claimed :
    let setting : Setting Unit Unit :=
      ⟨Native.builtinRegistry, Native.lawful_builtinRegistry, fun _ _ _ => .finish (.ok ()), 2⟩
    let definitions : List (ClassDefinition Unit) :=
      [{ ClassDefinition.ordinary .object with superName := none }, .ordinary .mirror]
    let root : ClassId := ⟨.bootstrap, 9⟩
    let type : ClassId := ⟨.bootstrap, 10⟩
    let claimed (id : ObjectId) : Object := .plain id root (some (.mirror root))
    let tasks : List (Task Unit) :=
      [⟨⟨1⟩, .request (.load .bootstrap .object)⟩, ⟨⟨1⟩, .request (.object claimed)⟩,
        ⟨⟨1⟩, .request (.mirror root)⟩, ⟨⟨1⟩, .request (.mirror root)⟩]
    let last := ((setting.run 0 tasks).outcome (start 0 definitions ())).2
    let executor := setting.executor (Initialization.initClass setting.host 0)
    let receiver : Object := .plain ⟨7, 7⟩ root (some (.mirror type))
    setting.registry.HoldsBuiltins ∧ last.machines.length = 9 ∧
      last.machine.metrics.mirrorsCreated = 1 ∧
      last.machine.area.classes.countP (fun loaded => loaded.mirror.isSome) = 1 ∧
      ∃ mirror after target final, (Machine.mirrorOf root).outcome last.machine =
          (.ok mirror, after) ∧
        after.area.IsBoot mirror.type .mirror ∧ after.Stands (.mirror root) mirror ∧
        (executor.invoke ⟨1⟩ ⟨.mirror, "getSuperclass", "()Ljava/lang/Class;"⟩
          [.reference (some receiver)]).outcome last =
            (.ok (some (.reference (some target))), final) ∧
        target.id = mirror.id ∧ mirror.id = ⟨0, 1⟩ ∧
        final.machine.Stands (.mirror root) target := by
  intro setting definitions root type claimed tasks last executor receiver
  have holds : setting.registry.HoldsBuiltins := Native.holds_builtinRegistry
  have canonical := (setting.run_objects_canonical holds 0 definitions () 0 tasks).2 last.machine
    (List.mem_cons_self)
  rcases canonical with ⟨⟨counts, _⟩, hands, _, calls⟩
  have made : last.machine.metrics.mirrorsCreated = 1 := by decide +kernel
  have identity : ((Machine.mirrorOf root).outcome last.machine).1.toOption.map Object.id =
      some ⟨0, 1⟩ := by
    decide +kernel
  have inherits : (last.machine.area.class? type).map (fun loaded => loaded.superclass) =
      some (some root) := by
    decide +kernel
  have called : ((executor.invoke ⟨1⟩ ⟨.mirror, "getSuperclass", "()Ljava/lang/Class;"⟩
      [.reference (some receiver)]).outcome last).1.toOption.join.bind
        (fun value => value.reference?.join.map Object.id) = some ⟨0, 1⟩ := by
    decide +kernel
  rcases asked : (Machine.mirrorOf root).outcome last.machine with ⟨fault | mirror, after⟩
  · rw [asked] at identity
    cases identity
  rcases invoked : (executor.invoke ⟨1⟩ ⟨.mirror, "getSuperclass", "()Ljava/lang/Class;"⟩
      [.reference (some receiver)]).outcome last with ⟨fault | value, final⟩
  · rw [invoked] at called
    cases called
  rw [asked] at identity
  rw [invoked] at called
  rcases hands (.mirror root) mirror after asked with ⟨_, _, boot, stands, _⟩
  rcases (calls _ ⟨1⟩ _ last rfl (by decide)).1 _ _ _ invoked with ⟨target, rfl, answers⟩
  rcases answers.of_superclass with ⟨id, loaded, receives, found, shows⟩
  cases receives
  rw [found] at inherits
  have parent : loaded.superclass = some root := Option.some.inj inherits
  rw [parent] at shows
  cases shows with
  | some shown =>
    have same : mirror.id = ⟨0, 1⟩ := Option.some.inj identity
    have other : _ = ObjectId.mk 0 1 := Option.some.inj called
    exact ⟨holds, by decide +kernel, made, counts.symm.trans made, mirror, after, _, final, rfl,
      boot rfl, stands, rfl, other.trans same.symm, same, shown⟩

end Setting
end ClassRuntime

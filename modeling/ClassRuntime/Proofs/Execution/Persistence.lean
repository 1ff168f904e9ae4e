import ClassRuntime.Proofs.Execution.Course
import ClassRuntime.Proofs.Execution.Progression
import ClassRuntime.Proofs.Machine.Canonical

namespace ClassRuntime

/-!
# What operations leave alone

A class that exists stays the class that it is, whatever is done with the runtime and
however it ends.  What can change is how far its initialization has come, by one move
after another, and empty places for the objects that stand for it can be filled.  Classes
come into being unstarted, and only the initialization of classes initializes: requests
never do, and calls do so as far as their natives are put off.

Initializers may do all of this themselves, so that a class that a request or native
brings into being in the course of an initialization can have been initialized in the
end.  What is said of new classes is therefore said of each single change.
-/

/-- An action that ends in one that changes nothing. -/
theorem Action.outcome_bind_idle {σ α β : Type} {action : Action σ α} {next : α → Action σ β}
    (idle : ∀ value, (next value).Within Eq) (state : σ) :
    ((action >>= next).outcome state).2 = (action.outcome state).2 := by
  rw [outcome_bind]
  rcases action.outcome state with ⟨fault | value, after⟩
  · rfl
  · exact (idle value after).symm

namespace LoadedClass

variable {ι : Type} {loaded middle later : LoadedClass ι}

/-- The later class is the same one, and the objects that stood for it still do. -/
structure Persists (loaded later : LoadedClass ι) : Prop where
  type : later.toTypeDescriptor = loaded.toTypeDescriptor
  initializer : later.initializer = loaded.initializer
  mirror : ∀ {mirror}, loaded.mirror = some mirror → later.mirror = some mirror
  pool : ∀ {pool}, loaded.pool = some pool → later.pool = some pool

theorem Persists.refl (loaded : LoadedClass ι) : loaded.Persists loaded where
  type := rfl
  initializer := rfl
  mirror given := given
  pool given := given

theorem Persists.trans (first : loaded.Persists middle) (second : middle.Persists later) :
    loaded.Persists later where
  type := second.type.trans first.type
  initializer := second.initializer.trans first.initializer
  mirror given := second.mirror (first.mirror given)
  pool given := second.pool (first.pool given)

end LoadedClass

namespace Area

variable {ι : Type} {before middle after : Area ι}

/-- The classes of the first area are classes of the second. -/
def Preserves (before after : Area ι) : Prop :=
  ∀ id loaded, before.class? id = some loaded →
    ∃ later, after.class? id = some later ∧ loaded.Persists later

instance : IsPreorder (Area ι) Preserves where
  refl _ _ loaded found := ⟨loaded, found, .refl loaded⟩
  trans _ _ _ first second := by
    intro id loaded found
    rcases first id loaded found with ⟨between, foundBetween, persists⟩
    rcases second id between foundBetween with ⟨later, foundLater, persistsOn⟩
    exact ⟨later, foundLater, persists.trans persistsOn⟩

end Area

namespace Machine

variable {ι : Type} {before after : Machine ι}

/-- A quiet change that leaves filled places filled. -/
theorem preserves_of_quiet (quiet : before.area.Quiet after.area) (keeps : before.Keeps after) :
    before.area.Preserves after.area := by
  intro id loaded found
  rcases quiet.kept found with ⟨later, foundLater, same⟩
  refine ⟨later, foundLater, LoadedClass.type_of_bare same, LoadedClass.initializer_of_bare same,
    ?_, ?_⟩
  · intro mirror given
    have kept : before.area.kept? (.mirror id) = some mirror := (Area.mirror?_eq found).trans given
    exact (Area.mirror?_eq foundLater).symm.trans (keeps.kept kept)
  · intro pool given
    have kept : before.area.kept? (.pool id) = some pool := by
      rw [Area.kept?, found]
      exact given
    have keptLater := keeps.kept kept
    rwa [Area.kept?, foundLater] at keptLater

theorem preserves_setProgress (area : Area ι) (id : ClassId) (progress : Progress) :
    area.Preserves (area.setProgress id progress) := by
  intro other loaded found
  rw [Area.setProgress, Area.class?_updateClass, found]
  split
  · exact ⟨{ loaded with progress }, rfl, rfl, rfl, fun given => given, fun given => given⟩
  · exact ⟨loaded, rfl, .refl loaded⟩

theorem Step.preserves {question? : Option (Question ι)} (step : Step before question? after) :
    before.area.Preserves after.area := by
  have keeps := step.keeps
  cases step with
  | request _ request => exact preserves_of_quiet (request.quiet before).area keeps
  | progress _ id progress => exact preserves_setProgress before.area id progress
  | count => exact refl_of Area.Preserves before.area

theorem Becomes.preserves (becomes : before.Becomes after) : before.area.Preserves after.area := by
  rcases becomes with ⟨questions, history⟩
  induction history with
  | start => exact refl_of Area.Preserves before.area
  | step _ step inductiveStep => exact trans_of Area.Preserves inductiveStep step.preserves

end Machine

/-! ## Where initialization takes place -/

/-- A call of which each dispatch is quiet.  What initializes is its waiting alone. -/
def Executor.Calls {ι σ : Type} (executor : Executor ι σ) (thread : ThreadId)
    (method : MethodKey) (frame : Frame) (before after : Session ι σ) : Prop :=
  (∃ cause, executor.registry.lookup method = .error cause ∧ after = before) ∨
  ∃ entry dispatches verdict call,
    executor.registry.lookup method = .ok entry ∧
    Course executor.initClass entry ⟨thread, method, frame.arguments, frame.place⟩ []
      ⟨before, frame.operands⟩ dispatches verdict call ∧
    after = call.session ∧
    ∀ dispatch ∈ dispatches,
      dispatch.entered.session.machine.Quiet dispatch.left.session.machine

namespace Setting

variable {ι σ α : Type} {setting : Setting ι σ} {nested : InitClass ι (Recorded ι σ)}
  {thread : ThreadId}

/-- What an operation has to do with initialization: requests have nothing, and calls
as much as they wait for. -/
def Triggers (setting : Setting ι σ) (nested : InitClass ι (Recorded ι σ))
    (thread : ThreadId) (before after : Session ι (Recorded ι σ)) : Operation ι α → Prop
  | .request _ => before.machine.Quiet after.machine
  | .initClass id => after = ((nested thread id).outcome before).2
  | .invoke method arguments =>
    (setting.executor nested).Calls thread method (.create arguments 0) before after
  | .invokeIn method frame => (setting.executor nested).Calls thread method frame before after

theorem idle_answered {τ : Type} (result : Except Fault α) :
    (Recorded.answered result : Action τ (Except Fault α)).Within Eq := by
  unfold Recorded.answered
  split
  · exact .throw _
  · exact .pure _

theorem calls_invokeIn (setting : Setting ι σ) (nested : InitClass ι (Recorded ι σ))
    (thread : ThreadId) (method : MethodKey) (frame : Frame)
    (before : Session ι (Recorded ι σ)) :
    (setting.executor nested).Calls thread method frame before
      (((setting.executor nested).invokeIn thread method frame).outcome before).2 := by
  cases registered : (setting.executor nested).registry.lookup method with
  | error cause =>
    refine Or.inl ⟨cause, registered, ?_⟩
    rw [Executor.invokeIn, registered]
    rfl
  | ok entry =>
    rcases ((setting.executor nested).invokeIn_course thread method frame registered before).1 with
      ⟨dispatches, verdict, call, course, _, _, ended⟩
    refine Or.inr ⟨entry, dispatches, verdict, call, registered, course, ?_, ?_⟩
    · rw [ended]
    · intro dispatch made
      rcases course.dispatched made with ⟨origin, rfl⟩
      have lawful := setting.lawful method entry registered
      exact (lawful _ ⟨_, .empty⟩).quiet

/-- The last steps of a call only pass its result on. -/
theorem triggers_perform (setting : Setting ι σ) (nested : InitClass ι (Recorded ι σ))
    (thread : ThreadId) (operation : Operation ι α) (before : Session ι (Recorded ι σ)) :
    setting.Triggers nested thread before
      ((setting.perform nested thread operation).outcome before).2 operation := by
  cases operation with
  | request request => exact request.quiet before.machine
  | initClass id => rfl
  | invoke method arguments =>
    have calls := setting.calls_invokeIn nested thread method (.create arguments 0) before
    rw [perform, Executor.invoke, Action.outcome_bind_idle fun _ => .bind (.ofExcept _) fun _ =>
      .pure _]
    exact calls
  | invokeIn method frame =>
    have calls := setting.calls_invokeIn nested thread method frame before
    rw [perform, Action.outcome_bind_idle fun _ => .bind (idle_answered _) fun _ => .pure _]
    exact calls

/-- Whatever an operation comes to, the classes that there were are still there, with all
that is fixed about them and with their mirrors and constant pools.  Each change on the
way makes classes that have not started, or one class that has not started is claimed, or
one that is in progress succeeds or fails.  Where such moves can happen depends on the
operation. -/
theorem perform_preserves_classes (setting : Setting ι σ) (depth : Nat) (thread : ThreadId)
    (operation : Operation ι α) (before : Session ι (Recorded ι σ)) :
    let nested := Initialization.initClass setting.host depth
    let after := ((setting.perform nested thread operation).outcome before).2
    (∀ id loaded, before.machine.area.class? id = some loaded →
      ∃ later, after.machine.area.class? id = some later ∧ loaded.Persists later) ∧
    Relation.ReflTransGen Area.Changes before.machine.area after.machine.area ∧
    setting.Triggers nested thread before after operation := by
  intro nested after
  have develops : (setting.perform nested thread operation).Within Session.Develops :=
    develops_perform (develops_initClass depth) thread operation
  have progresses : before.Progresses after := progresses_perform depth thread operation before
  exact ⟨(develops before).machine.preserves, progresses.changes,
    setting.triggers_perform nested thread operation before⟩

/-- The case of a call that is put off.  The class for which it waits is loaded and
initialized on the way, and the class that the call is about keeps its mirror. -/
theorem perform_preserves_classes_pool :
    let setting : Setting Unit Unit :=
      ⟨Native.builtinRegistry, Native.lawful_builtinRegistry, fun _ _ _ => .finish (.ok ()), 2⟩
    let definitions : List (ClassDefinition Unit) :=
      [{ ClassDefinition.ordinary ClassName.object with superName := none },
        .ordinary ClassName.mirror, .ordinary ClassName.constantPool]
    let void : ClassId := ⟨.bootstrap, 0⟩
    let machine := ((Machine.mirrorOf void).outcome (.initial 0 definitions)).2
    let before : Session Unit (Recorded Unit Unit) := ⟨machine, ⟨(), []⟩⟩
    let mirror : Reference := machine.area.mirror? void
    let after := ((setting.perform (Initialization.initClass setting.host 0) ⟨1⟩
      (.invoke ⟨.mirror, "getConstantPool", "()Lsun/reflect/ConstantPool;"⟩
        [.reference mirror])).outcome before).2
    ∃ loaded later,
      before.machine.area.class? void = some loaded ∧ loaded.mirror.isSome ∧
      after.machine.area.class? void = some later ∧ loaded.Persists later ∧
      later.mirror = loaded.mirror ∧ later.pool.isSome ∧
      before.machine.area.class? ⟨.bootstrap, 11⟩ = none ∧
      after.machine.area.progress ⟨.bootstrap, 11⟩ = .initialized := by
  intro setting definitions void machine before mirror after
  have preserves := (setting.perform_preserves_classes 0 ⟨1⟩
    (.invoke ⟨.mirror, "getConstantPool", "()Lsun/reflect/ConstantPool;"⟩
      [.reference mirror]) before).1
  have mirrored : mirror.isSome := by decide +kernel
  rcases Option.isSome_iff_exists.1 mirrored with ⟨object, known⟩
  rcases Option.bind_eq_some_iff.1 known with ⟨loaded, found, kept⟩
  rcases preserves void loaded found with ⟨later, foundLater, persists⟩
  have pooled : (after.machine.area.kept? (.pool void)).isSome := by decide +kernel
  rw [Area.kept?, foundLater, Option.bind_some] at pooled
  refine ⟨loaded, later, found, Option.isSome_iff_exists.2 ⟨object, kept⟩, foundLater, persists,
    ?_, pooled, ?_, ?_⟩
  · exact (persists.mirror kept).trans kept.symm
  · have unknown : (machine.area.class? ⟨.bootstrap, 11⟩).isNone := by decide +kernel
    exact Option.isNone_iff_eq_none.1 unknown
  · decide +kernel

end Setting
end ClassRuntime

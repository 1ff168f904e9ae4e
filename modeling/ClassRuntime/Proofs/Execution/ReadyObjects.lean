import ClassRuntime.Proofs.Execution.Doomed
import ClassRuntime.Proofs.Execution.Inquiry
import ClassRuntime.Proofs.Execution.Readiness
import ClassRuntime.Proofs.Native.Dependencies

namespace ClassRuntime

/-!
# Objects of classes that are ready

Two natives hand out objects of classes of the library, the handle of a loader and the
constant pool of a class.  A program gets hold of such an object only if its class has been
initialized, or is being initialized at the moment.  Until then the call is put off, and if
the initialization fails, the call fails with it.

What is not obvious is that this is the end of it.  The initialization may have failed
because of a class above the one that the native depends on, which then has not failed
itself.  So later calls are put off as well, and it is the attempt to initialize the class
that makes them fail, again and again and always because of the same class.
-/

/-! ## Dispatches -/

theorem Session.becomes_counted {ι σ : Type} (session : Session ι σ) (advance : Metrics → Metrics)
    (listed : advance ∈
      [Metrics.countDispatch, Metrics.countDeferral, Metrics.countInitializer]) :
    session.machine.Becomes (session.counted advance).machine :=
  Machine.becomes_count listed session.machine

namespace Dispatch

variable {ι σ : Type} {entry : RegistryEntry (Native ι)} {site : CallSite} {call : Call ι σ}

/-- The call goes on to wait for a class. -/
def waiting (dispatch : Dispatch ι σ) : Session ι σ :=
  dispatch.left.session.counted Metrics.countDeferral

theorem becomes_waiting (lawful : entry.handler.Lawful) :
    call.session.machine.Becomes (of entry site call).waiting.machine :=
  trans_of Machine.Becomes (call.session.becomes_counted Metrics.countDispatch (by simp)) <|
    trans_of Machine.Becomes
      (lawful site ⟨(call.session.counted Metrics.countDispatch).machine, .empty⟩).becomes
      ((of entry site call).left.session.becomes_counted Metrics.countDeferral (by simp))

/-- Counting does not touch the area. -/
theorem quiet_left (lawful : entry.handler.Lawful) :
    call.session.machine.area.Quiet (of entry site call).left.session.machine.area :=
  (lawful site ⟨(call.session.counted Metrics.countDispatch).machine, .empty⟩).quiet.area

/-- What the native has done was to hand out an object, or to ask for its class. -/
theorem outcome_handOut {subject : Subject}
    (hands : entry.handler.Hands site subject call.session.machine) :
    (Native.handOut subject).outcome
        ⟨(call.session.counted Metrics.countDispatch).machine, .empty⟩ =
      ((of entry site call).decision,
        ⟨(of entry site call).left.session.machine, (of entry site call).left.operands⟩) := by
  rw [← outcome_of]
  exact (hands ⟨_, .empty⟩ (call.session.becomes_counted Metrics.countDispatch (by simp))).symm

end Dispatch

namespace Course

variable {ι σ : Type} {initClass : InitClass ι σ} {entry : RegistryEntry (Native ι)}
  {site : CallSite} {awaited : List ClassId} {call after : Call ι σ}
  {dispatches : List (Dispatch ι σ)} {verdict : Option (Except Fault Unit)} {subject : Subject}

/-- In a call that is in order, the last dispatch has handed out the object. -/
theorem object_of_ok (becomes : ∀ thread id, (initClass thread id).Within Session.Becomes)
    (lawful : entry.handler.Lawful)
    (hands : entry.handler.Hands site subject call.session.machine)
    (course : Course initClass entry site awaited call dispatches verdict after)
    (fine : verdict = some (.ok ())) :
    ∃ before middle object, call.session.machine.Becomes before ∧
      (Native.pendingInitialization subject.home subject.className).outcome before =
        (.ok none, middle) ∧
      (Machine.objectOf subject).outcome middle = (.ok object, after.session.machine) ∧
      after.operands = Operands.empty.push (.reference (some object)) := by
  induction course with
  | pending => cases fine
  | abandoned => cases fine
  | @ended awaited call verdict ends =>
    cases fine
    cases ends with
    | completed decided =>
      have ended := Dispatch.outcome_handOut hands
      rw [decided] at ended
      rcases Native.object_of_handOut ended with ⟨middle, object, asked, given, pushed⟩
      exact ⟨_, middle, object, call.session.becomes_counted Metrics.countDispatch (by simp),
        asked, given, pushed⟩
  | @resumed awaited call after dependency session dispatches verdict waits initialized _
      inductiveStep =>
    have onward : call.session.machine.Becomes session.machine :=
      trans_of Machine.Becomes (Dispatch.becomes_waiting lawful)
        ((becomes site.thread dependency).related initialized)
    rcases inductiveStep (hands.later onward) fine with
      ⟨before, middle, object, came, asked, given, pushed⟩
    exact ⟨before, middle, object, trans_of Machine.Becomes onward came, asked, given, pushed⟩

end Course

namespace Setting

open Recorded

variable {ι σ : Type} {setting : Setting ι σ} {depth : Nat} {entry : RegistryEntry (Native ι)}
  {site : CallSite} {awaited : List ClassId} {call after : Call ι (Recorded ι σ)}
  {dispatches : List (Dispatch ι (Recorded ι σ))} {verdict : Option (Except Fault Unit)}
  {subject : Subject} {culprit : ClassId}

/-- Having a class initialized is initializing it, apart from the record. -/
theorem initClass_of_executor {nested : InitClass ι (Recorded ι σ)} {thread : ThreadId}
    {id : ClassId} {session last : Session ι (Recorded ι σ)} {result : Except Fault Unit}
    (ended : ((setting.executor nested).initClass thread id).outcome session = (result, last)) :
    ∃ after, (nested thread id).outcome (noted (.started thread) session) = (result, after) ∧
      after.machine = last.machine := by
  have observes : ∃ last, ((setting.executor nested).initClass thread id).outcome session =
      (((nested thread id).outcome (noted (.started thread) session)).1, last) ∧
        last.machine = ((nested thread id).outcome (noted (.started thread) session)).2.machine :=
    outcome_executor thread id session
  rcases observes with ⟨other, observed, same⟩
  rw [ended, Prod.mk.injEq] at observed
  rcases observed with ⟨rfl, rfl⟩
  exact ⟨_, rfl, same.symm⟩

section Fails

variable (aloof : ∀ code thread id, (setting.program code thread id).Aloof)
  (lawful : entry.handler.Lawful)

include aloof lawful

/-- What comes of waiting.  If a class fails meanwhile, the call does not go on, and the class
for which it has waited is doomed. -/
theorem awaited_spec (hands : entry.handler.Hands site subject call.session.machine)
    (reachable : call.session.machine.Reachable)
    {dependency : ClassId} (waits : (Dispatch.of entry site call).Waits awaited dependency)
    {result : Except Fault Unit} {session : Session ι (Recorded ι σ)}
    (ended : ((setting.executor (Initialization.initClass setting.host depth)).initClass site.thread
      dependency).outcome (Dispatch.of entry site call).waiting = (result, session)) :
    call.session.machine.Becomes session.machine ∧
      ((∀ other, call.session.machine.area.progress other ≠ .inProgress site.thread) →
        ∀ other, session.machine.area.progress other ≠ .inProgress site.thread) ∧
      (call.session.machine.area.progress culprit ≠ .failed →
        session.machine.area.progress culprit = .failed →
          session.machine.area.lookup? subject.home subject.className = some dependency ∧
          ∃ type reason, session.machine.area.type? culprit = some type ∧
            result = .error (.error (.initializationFailed type.name reason)) ∧
            ((∀ other, call.session.machine.area.progress other ≠ .inProgress site.thread) →
              session.machine.area.Doomed dependency culprit)) := by
  let begun := noted (.started site.thread) (Dispatch.of entry site call).waiting
  have asked := Dispatch.outcome_handOut hands
  rw [waits.decided] at asked
  rcases Native.load_of_pending (Native.pending_of_handOut asked) with ⟨loads, unstarted⟩
  have came : call.session.machine.Becomes begun.machine := Dispatch.becomes_waiting lawful
  have quiet : call.session.machine.area.Quiet begun.machine.area := Dispatch.quiet_left lawful
  have idleStill (idle : ∀ other, call.session.machine.area.progress other ≠
      .inProgress site.thread) (other : ClassId) :
      begun.machine.area.progress other ≠ .inProgress site.thread := by
    rw [quiet.progress]
    exact idle other
  rcases initClass_of_executor ended with ⟨last, initialized, same⟩
  have onward : begun.machine.Becomes last.machine :=
    ((develops_initClass depth site.thread dependency).related initialized).machine
  rw [← same]
  refine ⟨trans_of Machine.Becomes came onward,
    fun idle => idle_initClass aloof (reachable.later came) (idleStill idle) initialized,
    fun fresh failed => ?_⟩
  have freshStill : begun.machine.area.progress culprit ≠ .failed := by
    rwa [quiet.progress]
  rcases dooms_initClass depth aloof (reachable.later came) unstarted initialized freshStill
    failed with ⟨type, reason, typed, stops, dooms⟩
  exact ⟨onward.retains.answer (Area.lookup?_of_load loads), type, reason, typed, stops,
    fun idle => dooms (idleStill idle)⟩

/-- If a class fails in the course of a call, the call fails with it.  The class for which
the call has waited is doomed from then on, if the thread was not initializing anything. -/
theorem dooms_course (hands : entry.handler.Hands site subject call.session.machine)
    (reachable : call.session.machine.Reachable)
    (course : Course (setting.executor (Initialization.initClass setting.host depth)).initClass
      entry site awaited call dispatches verdict after)
    (fresh : call.session.machine.area.progress culprit ≠ .failed)
    (failed : after.session.machine.area.progress culprit = .failed) :
    ∃ dependency type reason,
      after.session.machine.area.lookup? subject.home subject.className = some dependency ∧
      after.session.machine.area.type? culprit = some type ∧
      verdict = some (.error (.error (.initializationFailed type.name reason))) ∧
      ((∀ other, call.session.machine.area.progress other ≠ .inProgress site.thread) →
        after.session.machine.area.Doomed dependency culprit) := by
  induction course with
  | pending => exact absurd failed fresh
  | ended =>
    rw [(Dispatch.quiet_left lawful).progress] at failed
    exact absurd failed fresh
  | @abandoned awaited call dependency fault session waits stops =>
    rcases awaited_spec aloof lawful hands reachable waits stops with ⟨_, _, fails⟩
    rcases fails fresh failed with ⟨answered, type, reason, typed, same, dooms⟩
    exact ⟨dependency, type, reason, answered, typed, congrArg some same, dooms⟩
  | @resumed awaited call after dependency session dispatches verdict waits initialized _
      inductiveStep =>
    rcases awaited_spec aloof lawful hands reachable waits initialized with
      ⟨came, idleStill, fails⟩
    have freshStill : session.machine.area.progress culprit ≠ .failed := by
      intro already
      rcases fails fresh already with ⟨_, _, _, _, stops, _⟩
      cases stops
    rcases inductiveStep (hands.later came) (reachable.later came) freshStill failed with
      ⟨dependency, type, reason, answered, typed, same, dooms⟩
    exact ⟨dependency, type, reason, answered, typed, same, fun idle => dooms (idleStill idle)⟩

end Fails

/-! ## Calls -/

section Calls

variable {thread : ThreadId} {key : MethodKey} {arguments : Arguments} {native : Native ι}
  {session last : Session ι (Recorded ι σ)}

/-- In a session in which the class of the object is doomed, the call fails because of the
culprit.  No object is made, and nothing is initialized. -/
theorem outcome_invoke_of_doomed (holds : setting.registry.HoldsBuiltins)
    (enough : 0 < setting.limit) (depth : Nat)
    (listed : (key, native) ∈ (Native.builtins : List (MethodKey × Native ι)))
    (hands : native.Hands ⟨thread, key, arguments, 0⟩ subject session.machine)
    {dependency : ClassId}
    (answered : session.machine.area.lookup? subject.home subject.className = some dependency)
    (doomed : session.machine.area.Doomed dependency culprit) {type : TypeDescriptor}
    (typed : session.machine.area.type? culprit = some type) :
    ∃ last, ((setting.executor (Initialization.initClass setting.host depth)).invoke thread key
      arguments).outcome session = (.error (.error (.erroneous type.name)), last) ∧
        last.machine.area = session.machine.area := by
  let executor := setting.executor (Initialization.initClass setting.host depth)
  let site : CallSite := ⟨thread, key, arguments, 0⟩
  rcases holds key native listed with ⟨descriptor, _, registered⟩
  let entry : RegistryEntry (Native ι) := ⟨native, descriptor⟩
  let dispatch := Dispatch.of entry site ⟨session, .empty⟩
  have handed : (native site).outcome
      ⟨(session.counted Metrics.countDispatch).machine, .empty⟩ =
        (Native.handOut subject).outcome
          ⟨(session.counted Metrics.countDispatch).machine, .empty⟩ :=
    hands ⟨_, .empty⟩ (session.becomes_counted Metrics.countDispatch (by simp))
  rcases doomed.own with rfl | unstarted
  · rcases Area.class?_of_type? typed with ⟨spoilt, foundSpoilt, rfl⟩
    have failed := (Area.progress_eq foundSpoilt).symm.trans doomed.failed
    rw [Native.outcome_handOut_of_failed answered foundSpoilt failed] at handed
    exact ⟨_, executor.outcome_invoke_of_error registered enough handed, rfl⟩
  · rcases doomed.exists_class with ⟨loaded, found⟩
    have stage := (Area.progress_eq found).symm.trans unstarted
    rw [Native.outcome_handOut_of_unstarted answered found stage] at handed
    have dispatched := handed.symm.trans (Dispatch.outcome_of entry site ⟨session, .empty⟩)
    rw [Prod.mk.injEq, Invocation.mk.injEq] at dispatched
    rcases dispatched with ⟨decided, same, left⟩
    have waits : dispatch.Waits [] dependency := ⟨decided.symm, left.symm, List.not_mem_nil⟩
    let begun := noted (.started thread) dispatch.waiting
    have unchanged : begun.machine.area = session.machine.area := by
      have areas := congrArg Machine.area same.symm
      exact areas
    rw [← unchanged] at doomed typed
    rcases doomed.barred with ⟨chain, lineage, first⟩
    have fails : (Initialization.initClass setting.host depth thread dependency).outcome begun =
        (.error (.error (.erroneous type.name)), begun) :=
      outcome_initClass_of_barred depth lineage first doomed.failed typed
    have observes : ∃ last, (executor.initClass thread dependency).outcome dispatch.waiting =
        (((Initialization.initClass setting.host depth thread dependency).outcome begun).1, last) ∧
          last.machine = ((Initialization.initClass setting.host depth thread dependency).outcome
            begun).2.machine :=
      outcome_executor thread dependency dispatch.waiting
    rw [fails] at observes
    rcases observes with ⟨last, abandons, kept⟩
    have course : Course executor.initClass entry site [] ⟨session, .empty⟩ [dispatch]
        (some (.error (.error (.erroneous type.name)))) { dispatch.left with session := last } :=
      .abandoned waits abandons
    exact ⟨last, executor.outcome_invoke registered (course.outcome_complete rfl enough),
      (congrArg Machine.area kept).trans unchanged⟩

/-- If a call is in order, the object has been handed out in the end. -/
theorem object_of_invoke (holds : setting.registry.HoldsBuiltins)
    (listed : (key, native) ∈ (Native.builtins : List (MethodKey × Native ι)))
    (hands : native.Hands ⟨thread, key, arguments, 0⟩ subject session.machine)
    {value? : Option Value}
    (ended : ((setting.executor (Initialization.initClass setting.host depth)).invoke thread key
      arguments).outcome session = (.ok value?, last)) :
    ∃ before middle object, session.machine.Becomes before ∧
      (Native.pendingInitialization subject.home subject.className).outcome before =
        (.ok none, middle) ∧
      (Machine.objectOf subject).outcome middle = (.ok object, last.machine) ∧
      value? = some (.reference (some object)) := by
  let executor := setting.executor (Initialization.initClass setting.host depth)
  let site : CallSite := ⟨thread, key, arguments, 0⟩
  rcases holds key native listed with ⟨descriptor, _, registered⟩
  let entry : RegistryEntry (Native ι) := ⟨native, descriptor⟩
  have reliable : Reliable executor.initClass := reliable_executor (reliable_initClass depth)
  rcases Call.course_of_complete executor.initClass entry site setting.limit []
    ⟨session, .empty⟩ with ⟨dispatches, verdict, call, course, _, _, completed⟩
  rw [executor.outcome_invoke registered completed, Prod.mk.injEq] at ended
  rcases ended with ⟨given, rfl⟩
  have fine : verdict = some (.ok ()) := by
    rcases verdict with _ | fault | ⟨⟩
    · cases given
    · cases given
    · rfl
  rcases course.object_of_ok reliable.becomes (setting.lawful key _ registered) hands fine with
    ⟨before, middle, object, came, asked, handed, pushed⟩
  refine ⟨before, middle, object, came, asked, handed, ?_⟩
  subst fine
  rw [pushed] at given
  cases given
  rfl

/-- If a class fails in the course of a call, so does the call.  The class of the object is
doomed from then on, if the thread was not initializing anything. -/
theorem dooms_invoke (aloof : ∀ code thread id, (setting.program code thread id).Aloof)
    (holds : setting.registry.HoldsBuiltins)
    (listed : (key, native) ∈ (Native.builtins : List (MethodKey × Native ι)))
    (hands : native.Hands ⟨thread, key, arguments, 0⟩ subject session.machine)
    (reachable : session.machine.Reachable)
    {result : Except Fault (Option Value)}
    (ended : ((setting.executor (Initialization.initClass setting.host depth)).invoke thread key
      arguments).outcome session = (result, last))
    (fresh : session.machine.area.progress culprit ≠ .failed)
    (failed : last.machine.area.progress culprit = .failed) :
    ∃ dependency type reason,
      last.machine.area.lookup? subject.home subject.className = some dependency ∧
      last.machine.area.type? culprit = some type ∧
      result = .error (.error (.initializationFailed type.name reason)) ∧
      ((∀ other, session.machine.area.progress other ≠ .inProgress thread) →
        last.machine.area.Doomed dependency culprit) := by
  let executor := setting.executor (Initialization.initClass setting.host depth)
  let site : CallSite := ⟨thread, key, arguments, 0⟩
  rcases holds key native listed with ⟨descriptor, _, registered⟩
  let entry : RegistryEntry (Native ι) := ⟨native, descriptor⟩
  rcases Call.course_of_complete executor.initClass entry site setting.limit []
    ⟨session, .empty⟩ with ⟨dispatches, verdict, call, course, _, _, completed⟩
  rw [executor.outcome_invoke registered completed, Prod.mk.injEq] at ended
  rcases ended with ⟨rfl, rfl⟩
  rcases dooms_course aloof (setting.lawful key _ registered) hands reachable course fresh
    failed with ⟨dependency, type, reason, answered, typed, rfl, dooms⟩
  exact ⟨dependency, type, reason, answered, typed, rfl, dooms⟩

end Calls

/-! ## Objects are handed out when they are ready -/

/-- A thread calls a native on a mirror, to get hold of the object that stands for the
subject, and this is what comes of it. -/
inductive Fetches (setting : Setting ι σ) (depth : Nat) (thread : ThreadId) (subject : Subject)
    (session : Session ι (Recorded ι σ)) :
    Except Fault (Option Value) → Session ι (Recorded ι σ) → Prop
  | call {key : MethodKey} {id : ClassId} {mirror : Object} {result : Except Fault (Option Value)}
      {after : Session ι (Recorded ι σ)} (mirrors : mirror.mirrored? = some id)
      (exposes : Native.Exposes session.machine.area id key subject)
      (ended : ((setting.executor (Initialization.initClass setting.host depth)).invoke thread key
        [.reference (some mirror)]).outcome session = (result, after)) :
      Fetches setting depth thread subject session result after

section Fetches

variable {thread : ThreadId} {session last : Session ι (Recorded ι σ)}
  {result : Except Fault (Option Value)}

theorem Fetches.becomes (fetches : setting.Fetches depth thread subject session result last) :
    session.machine.Becomes last.machine := by
  rcases fetches with @⟨key, id, mirror, _, _, _, _, ended⟩
  have develops : (setting.perform (Initialization.initClass setting.host depth) thread
      (.invoke key [.reference (some mirror)])).Within Session.Develops :=
    develops_perform (develops_initClass depth) thread _
  exact (develops.related ended).machine

theorem Fetches.object (holds : setting.registry.HoldsBuiltins) {value? : Option Value}
    (fetches : setting.Fetches depth thread subject session (.ok value?) last) :
    ∃ before middle object, session.machine.Becomes before ∧
      (Native.pendingInitialization subject.home subject.className).outcome before =
        (.ok none, middle) ∧
      (Machine.objectOf subject).outcome middle = (.ok object, last.machine) ∧
      value? = some (.reference (some object)) := by
  rcases fetches with ⟨mirrors, exposes, ended⟩
  rcases exposes.hands mirrors with ⟨native, listed, hands⟩
  exact object_of_invoke holds listed (hands thread 0) ended

end Fetches

/-- A class of the boot path has no loader, and nothing is looked up to say so. -/
theorem outcome_getClassLoader_of_boot (holds : setting.registry.HoldsBuiltins)
    (enough : 0 < setting.limit) (depth : Nat) (thread : ThreadId)
    {session : Session ι (Recorded ι σ)} {id : ClassId} {mirror : Object}
    (mirrors : mirror.mirrored? = some id) {type : TypeDescriptor}
    (typed : session.machine.area.type? id = some type) (boot : type.source = .bootPath) :
    ((setting.executor (Initialization.initClass setting.host depth)).invoke thread
      ⟨.mirror, "getClassLoader0", "()Ljava/lang/ClassLoader;"⟩
      [.reference (some mirror)]).outcome session =
        (.ok (some (.reference none)), session.counted Metrics.countDispatch) := by
  let key : MethodKey := ⟨.mirror, "getClassLoader0", "()Ljava/lang/ClassLoader;"⟩
  let site : CallSite := ⟨thread, key, [.reference (some mirror)], 0⟩
  let counted := session.counted Metrics.countDispatch
  have listed : (key, Native.getClassLoader) ∈
      (Native.builtins : List (MethodKey × Native ι)) := by
    simp [Native.builtins, Native.declared, key]
  have received : site.receiver? = some id := mirrors
  have answered : (Native.getClassLoader site).outcome ⟨counted.machine, .empty⟩ =
      (.ok .complete, ⟨counted.machine, Operands.empty.push (.reference none)⟩) := by
    have there : counted.machine.area.type? id = some type := typed
    rw [Native.outcome_getClassLoader received there, Native.handOutLoader, if_pos boot]
    rfl
  exact Executor.outcome_invoke_of_answer holds listed enough answered

/-- In every reachable machine, the native that hands out loaders answers null for the
classes of the boot path alone, and then at once.  Otherwise, a call that is in order hands
out the object that stands for the subject, the handle of the loader or the pool of the
class.  Its class is the one that is found where it belongs, and is initialized or being
initialized.  Objects are the same if and only if they stand for the same subject, at
whatever times they are fetched.

Let initializers leave the runtime alone.  If a class fails in the course of the call, the call
fails with it.  Whatever is done then, calls for objects of the same class fail because of this
class, and make no object.  This last part is about a thread in the middle of no initializer:
other threads would have to wait for a class that it was initializing above. -/
theorem objects_ready (setting : Setting ι σ) (holds : setting.registry.HoldsBuiltins)
    (enough : 0 < setting.limit) {session : Session ι (Recorded ι σ)}
    (reachable : session.machine.Reachable) :
    (∀ depth thread id type mirror, session.machine.area.type? id = some type →
      mirror.mirrored? = some id →
        let outcome := ((setting.executor (Initialization.initClass setting.host depth)).invoke
          thread ⟨.mirror, "getClassLoader0", "()Ljava/lang/ClassLoader;"⟩
          [.reference (some mirror)]).outcome session
        (outcome.1 = .ok (some (.reference none)) ↔ type.source = .bootPath) ∧
          (type.source = .bootPath → outcome.2 = session.counted Metrics.countDispatch)) ∧
    ∀ depth thread subject result after,
      setting.Fetches depth thread subject session result after →
      (∀ value?, result = .ok value? → ∃ object, value? = some (.reference (some object)) ∧
        object.subject? = some subject ∧
        after.machine.area.lookup? subject.home subject.className = some object.type ∧
        (after.machine.area.progress object.type = .initialized ∨
          ∃ owner, after.machine.area.progress object.type = .inProgress owner) ∧
        ∀ later, after.machine.Becomes later.machine → ∀ depth thread other value? last,
          setting.Fetches depth thread other later (.ok value?) last →
            ∃ twin, value? = some (.reference (some twin)) ∧
              (object.id = twin.id ↔ subject = other)) ∧
      ((∀ code thread id, (setting.program code thread id).Aloof) →
        ∀ culprit, session.machine.area.progress culprit ≠ .failed →
          after.machine.area.progress culprit = .failed →
          ∃ type reason, after.machine.area.type? culprit = some type ∧
            result = .error (.error (.initializationFailed type.name reason)) ∧
            ((∀ id, session.machine.area.progress id ≠ .inProgress thread) →
              ∀ onward tasks depth thread other answer last,
                let later := ((setting.run onward tasks).outcome after).2
                setting.Fetches depth thread other later answer last →
                  other.home = subject.home → other.className = subject.className →
                    answer = .error (.error (.erroneous type.name)) ∧
                      last.machine.area = later.machine.area)) := by
  refine ⟨fun depth thread id type mirror typed mirrors => ?_,
    fun depth thread subject result after fetches => ⟨fun value? fine => ?_,
      fun aloof culprit fresh failed => ?_⟩⟩
  · intro outcome
    by_cases boot : type.source = .bootPath
    · have answered : outcome = _ :=
        outcome_getClassLoader_of_boot holds enough depth thread mirrors typed boot
      rw [answered]
      exact ⟨iff_of_true rfl boot, fun _ => rfl⟩
    · refine ⟨iff_of_false (fun null => ?_) boot, fun same => absurd same boot⟩
      have fetches : setting.Fetches depth thread (.handle id.loader) session outcome.1 outcome.2 :=
        .call mirrors (.handle typed boot) rfl
      rw [null] at fetches
      rcases fetches.object holds with ⟨_, _, object, _, _, _, shown⟩
      cases shown
  · subst fine
    rcases fetches.object holds with ⟨before, middle, object, came, asked, given, shown⟩
    have reachableBefore := reachable.later came
    have reachableMiddle :=
      reachableBefore.later ((Native.becomes_pendingInitialization _ _).related asked)
    rcases reachableMiddle.canonical_of_objectOf given with ⟨same, found, _, _, apart⟩
    refine ⟨object, shown, same, found, Native.started_of_objectOf reachableBefore asked given, ?_⟩
    intro later onward depth thread other value? last again
    rcases again.object holds with ⟨start, next, twin, starts, askedTwin, givenTwin, shownTwin⟩
    have between := trans_of Machine.Becomes onward <| trans_of Machine.Becomes starts
      ((Native.becomes_pendingInitialization _ _).related askedTwin)
    exact ⟨twin, shownTwin, apart next between other twin _ givenTwin⟩
  · have reachableAfter := reachable.later fetches.becomes
    rcases fetches with ⟨mirrors, exposes, ended⟩
    rcases exposes.hands mirrors with ⟨native, listed, hands⟩
    rcases dooms_invoke aloof holds listed (hands thread 0) reachable ended fresh failed with
      ⟨dependency, type, reason, answered, typed, stops, dooms⟩
    refine ⟨type, reason, typed, stops, fun idle onward tasks depth thread other answer last => ?_⟩
    intro later again home name
    have abides := abides_run aloof onward tasks after
    rcases again with ⟨mirrorsOther, exposesOther, endedOther⟩
    rcases exposesOther.hands mirrorsOther with ⟨twin, listedTwin, handsTwin⟩
    have answeredLater : later.machine.area.lookup? other.home other.className =
        some dependency := by
      rw [home, name]
      exact abides.becomes.retains.answer answered
    rcases outcome_invoke_of_doomed holds enough depth listedTwin (handsTwin thread 0) answeredLater
      (abides.doomed reachableAfter (dooms idle)) (abides.becomes.retains.type typed) with
      ⟨final, fails, kept⟩
    rw [fails] at endedOther
    cases endedOther
    exact ⟨rfl, kept⟩

/-- The case of a class library in which the superclass of all handles cannot be
initialized.  Another thread tries to initialize the class of handles in between, and a class
that has not been there before is given a mirror and asked for its loader.  Its pool can be
had. -/
theorem objects_ready_doomed :
    let setting : Setting Unit Unit :=
      ⟨Native.builtinRegistry, Native.lawful_builtinRegistry,
        fun _ _ _ => .finish (.error "too late"), 2⟩
    let base : ClassDefinition Unit := .ordinary "Base"
    let handle : ClassDefinition Unit := .ordinary ClassName.loaderHandle
    let definitions : List (ClassDefinition Unit) :=
      [{ ClassDefinition.ordinary ClassName.object with superName := none },
        .interface ClassName.cloneable, .interface ClassName.serializable,
        { base with initializer := some () }, handle.extending "Base",
        .ordinary ClassName.constantPool, .ordinary ClassName.mirror]
    let after {α : Type} (request : Request Unit α) (machine : Machine Unit) :=
      (request.perform.outcome machine).2
    let machine := after (.mirror ⟨⟨1⟩, 0⟩) (after (.load ⟨1⟩ "[LA;")
      (after (.addDefinition ⟨1⟩ (.ordinary "A"))
        (after (.addLoader "app" (.userPath "app.jar") none) (.initial 0 definitions))))
    let session : Session Unit (Recorded Unit Unit) := ⟨machine, (), []⟩
    let loaderKey : MethodKey := ⟨.mirror, "getClassLoader0", "()Ljava/lang/ClassLoader;"⟩
    let poolKey : MethodKey := ⟨.mirror, "getConstantPool", "()Lsun/reflect/ConstantPool;"⟩
    let call (key : MethodKey) (mirror : Reference) :=
      ((setting.executor (Initialization.initClass setting.host 0)).invoke ⟨1⟩ key
        [.reference mirror]).outcome
    let own : Reference := machine.area.mirror? ⟨⟨1⟩, 0⟩
    let middle := (call loaderKey own session).2
    let tasks : List (Task Unit) :=
      [⟨⟨2⟩, .initClass ⟨.bootstrap, 14⟩⟩, ⟨⟨2⟩, .request (.load ⟨1⟩ "[[LA;")⟩,
        ⟨⟨2⟩, .request (.mirror ⟨⟨1⟩, 2⟩)⟩]
    let later := ((setting.run 0 tasks).outcome middle).2
    let other : Reference := later.machine.area.mirror? ⟨⟨1⟩, 2⟩
    own.isSome ∧ other.isSome ∧
    (∃ reason, (call loaderKey own session).1 =
      .error (.error (.initializationFailed "Base" reason))) ∧
    (call loaderKey other later).1 = .error (.error (.erroneous "Base")) ∧
    ∃ object last, call poolKey other later = (.ok (some (.reference (some object))), last) ∧
      object.subject? = some (.pool ⟨⟨1⟩, 2⟩) ∧
      last.machine.area.lookup? .bootstrap .constantPool = some object.type ∧
      (last.machine.area.progress object.type = .initialized ∨
        ∃ owner, last.machine.area.progress object.type = .inProgress owner) := by
  intro setting base handle definitions after machine session loaderKey poolKey call own middle
    tasks later other
  have holds : setting.registry.HoldsBuiltins := Native.holds_builtinRegistry
  have reachable : session.machine.Reachable :=
    ((((Machine.reachable_initial 0 definitions).perform _).perform _).perform _).perform _
  have exposed (id : ClassId) {machine : Machine Unit}
      (source : (machine.area.type? id).map (·.source) = some (.userPath "app.jar")) :
      Native.Exposes machine.area id loaderKey (.handle id.loader) ∧
        Native.Exposes machine.area id poolKey (.pool id) := by
    rcases Option.map_eq_some_iff.1 source with ⟨type, typed, path⟩
    exact ⟨.handle typed (by rw [path]; simp), .pool (Area.isSome_class?_iff.2 ⟨type, typed⟩)⟩
  have made : own.isSome := by decide +kernel
  rcases reachable.exists_mirror made with ⟨mirror, kept, mirrors⟩
  have first : setting.Fetches 0 ⟨1⟩ (.handle ⟨1⟩) session (call loaderKey own session).1
      middle := by
    refine .call mirrors (exposed ⟨⟨1⟩, 0⟩ (by decide +kernel)).1 ?_
    rw [← kept]
  have reachableLater : later.machine.Reachable :=
    (reachable.later first.becomes).later (develops_run 0 tasks middle).machine
  have madeOther : other.isSome := by decide +kernel
  rcases reachableLater.exists_mirror madeOther with ⟨twin, keptOther, mirrorsOther⟩
  have same (key : MethodKey) : call key other later = call key (some twin) later := by
    rw [show other = some twin from keptOther]
  have exposes := exposed ⟨⟨1⟩, 2⟩ (show (later.machine.area.type? ⟨⟨1⟩, 2⟩).map (·.source) =
    some (.userPath "app.jar") by decide +kernel)
  have resting : session.machine.area.Resting := Area.resting_of_classIds (by decide +kernel)
  have spoilt : (middle.machine.area.class? ⟨.bootstrap, 13⟩).map
      (fun loaded => (loaded.name, loaded.progress)) = some ("Base", .failed) := by
    decide +kernel
  rcases Option.map_eq_some_iff.1 spoilt with ⟨loaded, found, named⟩
  rw [Prod.mk.injEq] at named
  rcases ((setting.objects_ready holds (by decide) reachable).2 0 ⟨1⟩ _ _ _ first).2
      (fun _ _ _ => .finish _) ⟨.bootstrap, 13⟩ (by decide +kernel)
      ((Area.progress_eq found).trans named.2) with ⟨type, reason, typed, stops, again⟩
  cases typed.symm.trans (Area.type?_of_class? found)
  have refused := (again (fun id => resting id ⟨1⟩) 0 tasks 0 ⟨1⟩ _ _ _
    (.call mirrorsOther exposes.1 (same loaderKey).symm) rfl rfl).1
  rw [named.1] at stops refused
  refine ⟨made, madeOther, ⟨reason, stops⟩, refused, ?_⟩
  have served : (call poolKey other later).1.isOk = true := by decide +kernel
  rcases ended : call poolKey other later with ⟨fault | value?, last⟩
  · rw [ended] at served
    cases served
  · rcases ((setting.objects_ready holds (by decide) reachableLater).2 0 ⟨1⟩ _ _ _
      (.call mirrorsOther exposes.2 ((same poolKey).symm.trans ended))).1 value? rfl with
      ⟨object, rfl, stands, found, ready, _⟩
    exact ⟨object, last, rfl, stands, found, ready⟩

end Setting
end ClassRuntime

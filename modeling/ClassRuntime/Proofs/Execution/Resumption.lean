import ClassRuntime.Proofs.Execution.Contract
import ClassRuntime.Proofs.Machine.Reachability
import ClassRuntime.Proofs.MethodDescriptor.RoundTrip

namespace ClassRuntime

/-!
# Where execution goes on

A frame that has been rewound makes the same call the next one to be executed,
and any other frame makes it the one behind.  Rewinding is meant for natives
that are put off.  A call checks it of these, but it does not check the opposite
of a native that says it is complete: what this native has done to its frame is
what the caller finds.

Each dispatch starts with a frame that is not rewound, so that nothing but the
last dispatch counts, however often the native has been put off before.  Natives
that keep the protocol do not rewind their frames when they are complete, and
their calls are followed by what comes behind them.
-/

namespace Course

variable {ι σ : Type} {initClass : InitClass ι σ} {entry : RegistryEntry (Native ι)}
  {site : CallSite} {awaited : List ClassId} {call after : Call ι σ}
  {dispatches : List (Dispatch ι σ)} {verdict : Option (Except Fault Unit)}

/-- A call that is in order has been put off in all dispatches but the last,
which has left the call as it is in the end. -/
theorem split_completed
    (course : Course initClass entry site awaited call dispatches verdict after)
    (completed : verdict = some (.ok ())) :
    ∃ earlier last, dispatches = earlier ++ [last] ∧
      (∀ dispatch ∈ earlier, dispatch.isDeferred ∧ dispatch.left.operands = ⟨#[], true⟩) ∧
      last.decision = .ok .complete ∧ last.left = after := by
  induction course with
  | pending | abandoned => cases completed
  | @ended awaited call verdict ends =>
    cases completed
    cases ends with
    | completed decided =>
      exact ⟨[], _, rfl, List.forall_mem_nil _, decided, rfl⟩
  | @resumed awaited call after dependency session dispatches verdict waits _ _ inductiveStep =>
    rcases inductiveStep completed with ⟨earlier, last, rfl, deferred, decided, left⟩
    refine ⟨.of entry site call :: earlier, last, rfl, ?_, decided, left⟩
    intro dispatch made
    rcases List.mem_cons.1 made with rfl | later
    · exact ⟨by rw [Dispatch.isDeferred, waits.decided], waits.left⟩
    · exact deferred dispatch later

end Course

namespace Native

variable {ι : Type} {native : Native ι}

/-- A native that has not rewound its frame when it is complete. -/
def Proceeds (native : Native ι) : Prop :=
  ∀ site, Leads (fun outcome operands => outcome = .complete → operands.rewound = false)
    (native site)

theorem Conforms.proceeds {category : Category} (conforms : native.Conforms category) :
    native.Proceeds := by
  intro site machine outcome after ended completed
  have concludes := conforms.concludes site machine outcome after ended
  generalize after.operands = operands at concludes ⊢
  cases concludes with
  | nothing | value => rfl
  | deferred => cases completed

theorem proceeds_builtin {key : MethodKey}
    (listed : (key, native) ∈ (builtins : List (MethodKey × Native ι))) : native.Proceeds := by
  rcases conforms_builtin listed with ⟨category, _, conforms, _⟩
  exact conforms.proceeds

end Native

theorem Frame.next_eq_succ_iff (frame : Frame) :
    frame.next = frame.place + 1 ↔ frame.operands.rewound = false := by
  rw [next]
  cases frame.operands.rewound with
  | false => exact iff_of_true rfl rfl
  | true => exact iff_of_false (Nat.ne_of_lt (Nat.lt_succ_self frame.place)) Bool.noConfusion

namespace Executor

variable {ι σ : Type}

/-- After a call that is in order, execution goes on behind it if and only if the
last dispatch has not rewound the frame.  What the dispatches before it have done
makes no difference.  A native that proceeds is never called again for nothing. -/
theorem next_of_completed (executor : Executor ι σ) {thread : ThreadId} {method : MethodKey}
    {frame after : Frame} {session later : Session ι σ}
    (completed : (executor.invokeIn thread method frame).outcome session =
      (.ok (.ok (), after), later)) :
    ∃ entry earlier last, executor.registry.lookup method = .ok entry ∧
      Course executor.initClass entry ⟨thread, method, frame.arguments, frame.place⟩ []
        ⟨session, frame.operands⟩ (earlier ++ [last]) (some (.ok ())) last.left ∧
      (∀ dispatch ∈ earlier, dispatch.isDeferred ∧ dispatch.left.operands = ⟨#[], true⟩) ∧
      last.decision = .ok .complete ∧ last.left.session = later ∧
      after = { frame with operands := last.left.operands } ∧
      (after.next = frame.place + 1 ↔ last.left.operands.rewound = false) ∧
      (entry.handler.Proceeds → after.next = frame.place + 1) := by
  cases registered : executor.registry.lookup method with
  | error cause =>
    rw [invokeIn, registered] at completed
    cases completed
  | ok entry =>
    rcases Call.course_of_complete executor.initClass entry
        ⟨thread, method, frame.arguments, frame.place⟩ executor.limit []
        ⟨session, frame.operands⟩ with ⟨dispatches, verdict, call, course, _, _, ended⟩
    rw [executor.outcome_invokeIn registered ended] at completed
    simp only [Prod.mk.injEq, Except.ok.injEq] at completed
    rcases completed with ⟨⟨fine, rfl⟩, rfl⟩
    have verdict_eq : verdict = some (.ok ()) := by
      cases verdict with
      | none => cases fine
      | some result => exact congrArg some fine
    rcases course.split_completed verdict_eq with ⟨earlier, last, rfl, deferred, decided, rfl⟩
    subst verdict_eq
    have resumes := Frame.next_eq_succ_iff { frame with operands := last.left.operands }
    refine ⟨entry, earlier, last, rfl, course, deferred, decided, rfl, rfl, resumes, ?_⟩
    intro proceeds
    have made : last ∈ earlier ++ [last] := List.mem_append_right _ (List.mem_singleton_self _)
    rcases course.dispatched made with ⟨before, rfl⟩
    have dispatched := Dispatch.outcome_of entry
      ⟨thread, method, frame.arguments, frame.place⟩ before
    rw [decided] at dispatched
    exact resumes.2 (proceeds _ _ _ _ dispatched rfl)

/-- The case of a call that has been put off once before. -/
theorem next_of_completed_deferred :
    let key : MethodKey := ⟨.mirror, "getConstantPool", "()Lsun/reflect/ConstantPool;"⟩
    let root : ClassDefinition Unit := .ordinary .object
    let definitions := [{ root with superName := none }, .ordinary .mirror,
      .ordinary .constantPool]
    let session : Session Unit Unit :=
      ⟨((Machine.mirrorOf ⟨.bootstrap, 0⟩).outcome (.initial 0 definitions)).2, ()⟩
    let mirror : Reference := session.machine.area.mirror? ⟨.bootstrap, 0⟩
    let frame : Frame := .create [.reference mirror] 7
    let host : Host Unit Unit := ⟨fun _ _ _ _ => pure (.ok ())⟩
    let executor : Executor Unit Unit :=
      ⟨Native.builtinRegistry, Initialization.initClass host 1, 2⟩
    mirror.isSome ∧ ∃ after later,
      (executor.invokeIn ⟨1⟩ key frame).outcome session = (.ok (.ok (), after), later) ∧
      later.machine.metrics.deferredDependencies = 1 ∧ after.next = 8 := by
  intro key root definitions session mirror frame host executor
  have listed : (key, Native.getConstantPool) ∈
      (Native.builtins : List (MethodKey × Native Unit)) := by
    simp [Native.builtins, Native.declared, key]
  rcases Native.holds_builtinRegistry key _ listed with ⟨descriptor, _, held⟩
  have made : mirror.isSome := by decide +kernel
  have counts : ((executor.invokeIn ⟨1⟩ key frame).outcome
      session).2.machine.metrics.deferredDependencies = 1 := by
    decide +kernel
  have fine : ((executor.invokeIn ⟨1⟩ key frame).outcome session).1.toOption.any
      (fun ended => ended.1.isOk) := by
    decide +kernel
  rcases ended : (executor.invokeIn ⟨1⟩ key frame).outcome session with
    ⟨fault | ⟨fault | value, after⟩, later⟩
  · rw [ended] at fine
    cases fine
  · rw [ended] at fine
    cases fine
  · rw [ended] at counts
    rcases executor.next_of_completed ended with
      ⟨entry, _, _, registered, _, _, _, _, _, _, proceeds⟩
    cases held.symm.trans registered
    exact ⟨made, after, later, rfl, counts, proceeds (Native.proceeds_builtin listed)⟩

/-- A native that rewinds its frame and is complete all the same leaves a result
behind, and the call that has produced it as the one to be executed next. -/
theorem completed_and_rewound :
    let method : MethodKey := ⟨"a/B", "f", "()I"⟩
    let native : Native Unit := fun _ => do
      Native.rewind
      Native.answer (.int 5)
    let entry : RegistryEntry (Native Unit) := ⟨native, ⟨[], some (.base .int)⟩⟩
    let host : Host Unit Unit := ⟨fun _ _ _ _ => pure (.ok ())⟩
    let executor : Executor Unit Unit :=
      ⟨.ofList [(method, native)], Initialization.initClass host 0, 1⟩
    let frame : Frame := .create [] 7
    let session : Session Unit Unit := ⟨.initial 0 [], ()⟩
    session.machine.Reachable ∧ executor.registry.lookup method = .ok entry ∧
      ∃ after later, (executor.invokeIn ⟨1⟩ method frame).outcome session =
          (.ok (.ok (), after), later) ∧
        after.operands.stack = #[.int 5] ∧ after.next = frame.place ∧
        after.next ≠ frame.place + 1 := by
  intro method native entry host executor frame session
  have reachable : session.machine.Reachable := Machine.reachable_initial 0 []
  have parsed : MethodDescriptor.parse method.descriptor = .ok entry.descriptor :=
    MethodDescriptor.parse_eq_ok_iff.2 ⟨by decide, by decide⟩
  have registered : executor.registry.lookup method = .ok entry := by
    change (Registry.empty.extended [(method, native)]).lookup method = .ok entry
    exact Registry.lookup_extended (List.nodup_singleton method) (List.mem_singleton_self _) parsed
  let site : CallSite := ⟨⟨1⟩, method, frame.arguments, frame.place⟩
  let dispatch := Dispatch.of entry site ⟨session, frame.operands⟩
  have left : dispatch.left.operands = ⟨#[.int 5], true⟩ := rfl
  have ends : dispatch.Ends entry.descriptor method.text [] (.ok ()) :=
    .completed rfl ⟨.int 5, congrArg Operands.stack left, rfl⟩
  have course : Course executor.initClass entry site [] ⟨session, frame.operands⟩ [dispatch]
      (some (.ok ())) dispatch.left := .ended ends
  have ended := executor.outcome_invokeIn registered (course.outcome_complete rfl (Nat.le_refl 1))
  rw [left] at ended
  exact ⟨reachable, registered, { frame with operands := ⟨#[.int 5], true⟩ }, _, ended, rfl, rfl,
    by decide⟩

end Executor
end ClassRuntime

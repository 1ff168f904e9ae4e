import ClassRuntime.Proofs.Execution.Contract
import ClassRuntime.Proofs.Native.Safety

namespace ClassRuntime

/-!
# Objects of other machines

A program can be handed objects whose classes its machine does not have.  Whatever
arguments a built-in native is given, its call meets no handle that the machine has not
given out, and neither does an initialization for which the call waits.  There is one
exception, and it is the only one: to ask whether an object is an instance of a class of
the machine is to look up the class of the object.
-/

variable {ι σ : Type}

theorem Session.upholds_counted (advance : Metrics → Metrics) (session : Session ι σ) :
    session.machine.Upholds (session.counted advance).machine :=
  .of_area rfl

section Safe

variable {initClass : InitClass ι σ} {entry : RegistryEntry (Native ι)} {site : CallSite}
  {call : Call ι σ}

/-- What is done for a call by a native that is dispatched to it is safe. -/
abbrev Dispatch.Safe (entry : RegistryEntry (Native ι)) (site : CallSite) (call : Call ι σ) :
    Prop :=
  Native.Safe (entry.handler site) (call.session.counted Metrics.countDispatch).machine

theorem Dispatch.upholds_of_safe (safe : Dispatch.Safe entry site call) :
    call.session.machine.Upholds (of entry site call).left.session.machine := by
  have upholds := safe.sound.related
  rw [outcome_of] at upholds
  exact trans_of Machine.Upholds (call.session.upholds_counted Metrics.countDispatch) upholds

/-- A class for which the call has to wait exists. -/
theorem Dispatch.known_of_safe (safe : Dispatch.Safe entry site call) {dependency : ClassId}
    (decided : (of entry site call).decision = .ok (.deferred dependency)) :
    ((of entry site call).left.session.machine.area.class? dependency).isSome := by
  have ended := outcome_of entry site call
  rw [decided] at ended
  have known := safe.sound.result _ (congrArg Prod.fst ended) dependency rfl
  rwa [ended] at known

/-- A dispatch of a safe native that ends the call with a fault ends it with an error
of the runtime. -/
theorem Dispatch.Ends.isError (safe : Dispatch.Safe entry site call) {awaited : List ClassId}
    (known : ∀ id ∈ awaited, (call.session.machine.area.class? id).isSome) {fault : Fault}
    (ends : (Dispatch.of entry site call).Ends entry.descriptor site.method.text awaited
      (.error fault)) : fault.IsError := by
  cases ends with
  | failed decided =>
    have ended := Dispatch.outcome_of entry site call
    rw [decided] at ended
    exact safe.sound.fault fault (congrArg Prod.fst ended)
  | miscounted => exact ⟨_, rfl⟩
  | mistyped => exact ⟨_, rfl⟩
  | laden => exact ⟨_, rfl⟩
  | unrewound => exact ⟨_, rfl⟩
  | stalled => exact ⟨_, rfl⟩
  | lost decided left again unknown =>
    -- A class for which the call has waited was there and is still there.
    have there := (Dispatch.upholds_of_safe safe).isSome (known _ again)
    rcases Option.isSome_iff_exists.1 there with ⟨loaded, found⟩
    rw [Area.loadedClass_eq_ok found] at unknown
    cases unknown

/-- A call of a safe native fails with errors of the runtime, or with the fault of an
initialization for which it has waited.  This fault may be that the initialization
was blocked, or that it used up its limits, but no dangling handle. -/
theorem Course.fault_of_safe (reliable : Reliable initClass) {awaited : List ClassId}
    {dispatches : List (Dispatch ι σ)} {verdict : Option (Except Fault Unit)} {after : Call ι σ}
    (course : Course initClass entry site awaited call dispatches verdict after)
    (safe : Dispatch.Safe entry site call) (grounded : call.session.machine.area.Grounded)
    (known : ∀ id ∈ awaited, (call.session.machine.area.class? id).isSome) {fault : Fault}
    (failed : verdict = some (.error fault)) :
    fault.IsError ∨ fault.dangles = false ∧ ∃ dependency before,
      (initClass site.thread dependency).outcome before = (.error fault, after.session) := by
  induction course with
  | pending => cases failed
  | ended ends =>
    cases failed
    exact Or.inl (ends.isError safe known)
  | @abandoned awaited call dependency _ session waits abandons =>
    cases failed
    let waiting := (Dispatch.of entry site call).left.session.counted Metrics.countDeferral
    have left : waiting.machine.area.Grounded := (Dispatch.upholds_of_safe safe).grounded grounded
    have there : (waiting.machine.area.class? dependency).isSome :=
      Dispatch.known_of_safe safe waits.decided
    exact Or.inr ⟨reliable.finds left there (congrArg Prod.fst abandons), _, _, abandons⟩
  | @resumed awaited call after dependency session dispatches verdict waits initialized rest
      inductiveStep =>
    -- The initialization has led to a grounded machine in which everything is still there,
    -- and no more is required for the next dispatch.
    let waiting := (Dispatch.of entry site call).left.session.counted Metrics.countDeferral
    have upholds : call.session.machine.Upholds waiting.machine :=
      trans_of Machine.Upholds (Dispatch.upholds_of_safe safe) (Session.upholds_counted _ _)
    have there : (waiting.machine.area.class? dependency).isSome :=
      Dispatch.known_of_safe safe waits.decided
    have becomes : waiting.machine.Becomes session.machine :=
      (reliable.becomes site.thread dependency).related initialized
    have later := becomes.area Machine.spans_staysGrounded (upholds.grounded grounded)
    have ended := Dispatch.outcome_of entry site call
    rw [waits.decided] at ended
    refine inductiveStep ⟨?_, safe.resumes⟩ later ?_ failed
    · exact safe.resumes ended becomes.retains later
    · intro id member
      rcases List.mem_cons.1 member with rfl | earlier
      · exact becomes.retains.isSome there
      · exact becomes.retains.isSome (upholds.isSome (known id earlier))

end Safe

/-- A strange call meets a handle that the machine has not given out. -/
theorem Executor.invoke_of_strange (executor : Executor ι σ)
    (holds : executor.registry.HoldsBuiltins) (enough : 0 < executor.limit) {thread : ThreadId}
    {arguments : Arguments} {session : Session ι σ} (honest : session.machine.Honest)
    (strange : CallSite.Strange ⟨thread, Native.instanceMethod, arguments, 0⟩ session.machine) :
    ∃ fault after, (executor.invoke thread Native.instanceMethod arguments).outcome session =
      (.error fault, after) ∧ fault.dangles := by
  have listed : (Native.instanceMethod, Native.isInstance) ∈
      (Native.builtins : List (MethodKey × Native ι)) := by
    simp [Native.builtins, Native.declared, Native.instanceMethod]
  rcases holds _ _ listed with ⟨descriptor, _, registered⟩
  let counted := session.counted Metrics.countDispatch
  have honestThere : counted.machine.Honest := honest
  have strangeThere : CallSite.Strange ⟨thread, Native.instanceMethod, arguments, 0⟩
      counted.machine := strange
  rcases Native.isInstance_of_strange honestThere strangeThere with
    ⟨fault, after, failed, dangles⟩
  exact ⟨fault, _, executor.outcome_invoke_of_error registered enough failed, dangles⟩

namespace Setting

section Invoke

variable {setting : Setting ι σ} {key : MethodKey} {native : Native ι} {thread : ThreadId}
  {arguments : Arguments} {session : Session ι (Recorded ι σ)}

/-- All other calls fail as those of safe natives do. -/
theorem fault_of_invoke (holds : setting.registry.HoldsBuiltins) (enough : 2 ≤ setting.limit)
    (listed : (key, native) ∈ (Native.builtins : List (MethodKey × Native ι))) {depth : Nat}
    (fine : session.machine.area.WellFormed)
    (familiar : ¬ (key = Native.instanceMethod ∧
      CallSite.Strange ⟨thread, key, arguments, 0⟩ session.machine)) {fault : Fault} :
    let executor := setting.executor (Initialization.initClass setting.host depth)
    let ended := (executor.invoke thread key arguments).outcome session
    ended.1 = .error fault → fault.IsError ∨ fault.dangles = false ∧ ∃ dependency before,
      (executor.initClass thread dependency).outcome before = (.error fault, ended.2) := by
  intro executor ended failed
  rcases setting.course_of_builtin holds listed depth thread arguments session with
    ⟨entry, dispatches, result, call, _, rfl, course, _, _, _, invoked⟩
  have came : ended = (result.map fun _ => call.operands.stack.back?, call.session) :=
    invoked enough
  have safe : Dispatch.Safe entry ⟨thread, key, arguments, 0⟩ ⟨session, .empty⟩ :=
    Native.safe_builtin listed fine familiar
  have reliable : Reliable executor.initClass := reliable_executor (reliable_initClass depth)
  rw [came] at failed ⊢
  cases result with
  | ok value => cases failed
  | error other =>
    cases failed
    exact course.fault_of_safe reliable safe fine.grounded (by rintro _ ⟨⟩) rfl

end Invoke

/-- A call of a built-in native meets a handle that its machine has not given out if and
only if it asks whether an object whose class is not there is an instance of a class that
is.  Otherwise it succeeds, or fails with an error of the runtime, or hands on the fault
of an initialization for which it has waited. -/
theorem invoke_dangles_iff (setting : Setting ι σ) (holds : setting.registry.HoldsBuiltins)
    (enough : 2 ≤ setting.limit) {key : MethodKey} {native : Native ι}
    (listed : (key, native) ∈ (Native.builtins : List (MethodKey × Native ι))) (depth : Nat)
    (thread : ThreadId) (arguments : Arguments) {session : Session ι (Recorded ι σ)}
    (reachable : session.machine.Reachable) (issued : session.machine.area.ParentsFirst) :
    let executor := setting.executor (Initialization.initClass setting.host depth)
    let site : CallSite := ⟨thread, key, arguments, 0⟩
    let ended := (executor.invoke thread key arguments).outcome session
    ((∃ fault, ended.1 = .error fault ∧ fault.dangles) ↔
      key = Native.instanceMethod ∧ site.Strange session.machine) ∧
    ∀ fault, ended.1 = .error fault → fault.dangles = false → fault.IsError ∨
      ∃ dependency before,
        (executor.initClass thread dependency).outcome before = (.error fault, ended.2) := by
  intro executor site ended
  by_cases strange : key = Native.instanceMethod ∧ site.Strange session.machine
  · rcases strange with ⟨rfl, strange⟩
    rcases executor.invoke_of_strange holds (Nat.lt_of_lt_of_le Nat.two_pos enough)
      reachable.honest strange with ⟨fault, after, abandoned, dangles⟩
    have failed : ended = (.error fault, after) := abandoned
    rw [failed]
    refine ⟨iff_of_true ⟨fault, rfl, dangles⟩ ⟨rfl, strange⟩, ?_⟩
    rintro _ ⟨⟩ other
    rw [dangles] at other
    cases other
  · have fails {fault : Fault} (failed : ended.1 = .error fault) :=
      fault_of_invoke holds enough listed (reachable.wellFormed issued) strange failed
    refine ⟨iff_of_false ?_ strange, fun fault failed _ => ?_⟩
    · rintro ⟨fault, failed, dangles⟩
      rcases fails failed with error | ⟨other, _⟩
      · rw [error.not_dangles] at dangles
        cases dangles
      · rw [other] at dangles
        cases dangles
    · exact (fails failed).imp_right fun handed => handed.2

/-- A setting with the built-in natives alone, whose initializers do nothing. -/
def plain : Setting Unit Unit where
  registry := Native.builtinRegistry
  lawful := Native.lawful_builtinRegistry
  program _ _ _ := .finish (.ok ())
  limit := 2

/-- The case of an object that is asked for its class, which its machine alone has. -/
theorem invoke_dangles_iff_getClass :
    let foreign : Object := .plain ⟨1, 0⟩ ⟨⟨1⟩, 0⟩ none
    let key : MethodKey := ⟨.object, "getClass", "()Ljava/lang/Class;"⟩
    let session : Session Unit (Recorded Unit Unit) := start 0 [] ()
    let executor := plain.executor (Initialization.initClass plain.host 0)
    session.machine.Reachable ∧ session.machine.area.ParentsFirst ∧
      session.machine.area.class? foreign.type = none ∧
      ¬ ∃ fault, ((executor.invoke ⟨1⟩ key [.reference (some foreign)]).outcome session).1 =
        .error fault ∧ fault.dangles := by
  intro foreign key session executor
  have reachable : session.machine.Reachable := Machine.reachable_initial 0 []
  have issued : session.machine.area.ParentsFirst := by decide +kernel
  have listed : (key, Native.getClass) ∈ (Native.builtins : List (MethodKey × Native Unit)) := by
    simp [Native.builtins, Native.declared, key]
  have other : key ≠ Native.instanceMethod := by decide
  have characterized := plain.invoke_dangles_iff Native.holds_builtinRegistry (Nat.le_refl 2) listed
    0 ⟨1⟩ [.reference (some foreign)] reachable issued
  exact ⟨reachable, issued, by decide +kernel, fun dangling => other (characterized.1.1 dangling).1⟩

/-- An object of a class that its machine has defined is compared with the root of
another one. -/
theorem foreign_object_dangles :
    let root : ClassDefinition Unit := { ClassDefinition.ordinary .object with superName := none }
    let main : ClassDefinition Unit := .ordinary "com/example/Main"
    let after {α : Type} (request : Request Unit α) (machine : Machine Unit) :=
      (request.perform.outcome machine).2
    let here := after (.mirror ⟨.bootstrap, 9⟩) (after (.load .bootstrap .object)
      (.initial 0 [root, .ordinary .mirror]))
    let maker := after (.load ⟨1⟩ main.name) (after (.addDefinition ⟨1⟩ main)
      (after (.addLoader "app" (.userPath "app.jar") none) (.initial 1 [root])))
    let mirror : Reference := here.area.mirror? ⟨.bootstrap, 9⟩
    let foreign : Object := .plain ⟨1, 0⟩ ⟨⟨1⟩, 0⟩ none
    let executor := plain.executor (Initialization.initClass plain.host 0)
    here.Reachable ∧ here.area.ParentsFirst ∧ mirror.isSome ∧
      maker.Reachable ∧ maker.area.ParentsFirst ∧
      (maker.area.class? foreign.type).map (fun loaded => loaded.name) = some main.name ∧
      ((Request.object fun identity => .plain identity ⟨⟨1⟩, 0⟩ none).perform.outcome maker).1 =
        .ok foreign ∧
      ((executor.invoke ⟨1⟩ Native.instanceMethod
        [.reference mirror, .reference (some foreign)]).outcome ⟨here, ⟨(), []⟩⟩).1 =
          .error (.danglingLoader ⟨1⟩) := by
  intro root main after here maker mirror foreign executor
  have reachableHere : here.Reachable :=
    ((Machine.reachable_initial 0 _).perform (.load .bootstrap .object)).perform
      (.mirror ⟨.bootstrap, 9⟩)
  have reachable : maker.Reachable :=
    (((Machine.reachable_initial 1 _).perform (.addLoader "app" (.userPath "app.jar") none)).perform
      (.addDefinition ⟨1⟩ main)).perform (.load ⟨1⟩ main.name)
  have computed : ((executor.invoke ⟨1⟩ Native.instanceMethod
      [.reference mirror, .reference (some foreign)]).outcome ⟨here, ⟨(), []⟩⟩).1.map
        (fun _ => ()) = .error (.danglingLoader ⟨1⟩) := by
    decide +kernel
  have serial : (⟨maker.number, maker.nextObject⟩ : ObjectId) = ⟨1, 0⟩ := by decide +kernel
  have made : ((Request.object fun identity => .plain identity ⟨⟨1⟩, 0⟩ none).perform.outcome
      maker).1 = .ok foreign :=
    congrArg (fun identity => Except.ok (Object.plain identity ⟨⟨1⟩, 0⟩ none)) serial
  refine ⟨reachableHere, by decide +kernel, by decide +kernel, reachable, by decide +kernel,
    by decide +kernel, made, ?_⟩
  rcases ended : ((executor.invoke ⟨1⟩ Native.instanceMethod
      [.reference mirror, .reference (some foreign)]).outcome ⟨here, ⟨(), []⟩⟩).1 with
    fault | value
  · rw [ended] at computed
    cases computed
    rfl
  · rw [ended] at computed
    cases computed

end Setting
end ClassRuntime

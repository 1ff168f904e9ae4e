import ClassRuntime.Proofs.Execution.Inquiry
import ClassRuntime.Proofs.Execution.Readiness
import ClassRuntime.Proofs.Machine.Invariants
import ClassRuntime.Proofs.Native.Dependencies

namespace ClassRuntime

/-!
# Array classes in reachable machines

In every reachable machine an array class has from its element what a program can see of
it, whatever its dimension is and whatever loaders have taken part.  The native that
hands out loaders cannot tell the two apart, because it looks at the source and at the
place of a class alone.  This remains so while the call waits, since both classes stay
what they are.
-/

namespace Call

variable {ι σ : Type} {initClass : InitClass ι (Recorded ι σ)} {entry : RegistryEntry (Native ι)}
  {thread : ThreadId} {method : MethodKey} {arguments others : Arguments} {place : Nat}
  {good : Machine ι → Prop}

/-- If a native acts alike for two lists of arguments in all good machines, so do its calls,
provided that machines remain good. -/
theorem outcome_complete_alike
    (develops : ∀ thread id, (initClass thread id).Within Session.Develops)
    (lawful : entry.handler.Lawful)
    (later : ∀ {before after : Machine ι}, before.Becomes after → good before → good after)
    (alike : ∀ invocation : Invocation ι, good invocation.machine →
      (entry.handler ⟨thread, method, arguments, place⟩).outcome invocation =
        (entry.handler ⟨thread, method, others, place⟩).outcome invocation)
    (limit : Nat) (awaited : List ClassId) {call : Call ι (Recorded ι σ)}
    (holds : good call.session.machine) :
    (complete initClass entry ⟨thread, method, arguments, place⟩ limit awaited).outcome call =
      (complete initClass entry ⟨thread, method, others, place⟩ limit awaited).outcome call := by
  induction limit generalizing awaited call with
  | zero => rfl
  | succ limit inductiveStep =>
    have counted : good (call.session.counted Metrics.countDispatch).machine :=
      later (Machine.becomes_count (by simp) call.session.machine) holds
    have same : (dispatch entry ⟨thread, method, arguments, place⟩).outcome call =
        (dispatch entry ⟨thread, method, others, place⟩).outcome call := by
      rw [outcome_dispatch, outcome_dispatch, Dispatch.of, Dispatch.of,
        alike ⟨(call.session.counted Metrics.countDispatch).machine, .empty⟩ counted]
    have dispatched :=
      Session.spans_develops.calling.dispatch lawful ⟨thread, method, others, place⟩ call
    rw [complete, complete, Action.outcome_bind, Action.outcome_bind, same]
    rcases ended : (dispatch entry ⟨thread, method, others, place⟩).outcome call with
      ⟨fault | outcome, middle⟩
    · rfl
    · rw [ended] at dispatched
      cases outcome with
      | complete => rfl
      | deferred dependency =>
        have waited := Session.spans_develops.calling.await develops
          ⟨thread, method, others, place⟩ awaited dependency middle
        change (await initClass ⟨thread, method, others, place⟩ awaited dependency >>= fun _ =>
            complete initClass entry ⟨thread, method, arguments, place⟩ limit
              (dependency :: awaited)).outcome middle =
          (await initClass ⟨thread, method, others, place⟩ awaited dependency >>= fun _ =>
            complete initClass entry ⟨thread, method, others, place⟩ limit
              (dependency :: awaited)).outcome middle
        rw [Action.outcome_bind, Action.outcome_bind]
        rcases ended : (await initClass ⟨thread, method, others, place⟩ awaited
          dependency).outcome middle with ⟨fault | value, after⟩
        · rfl
        · rw [ended] at waited
          exact inductiveStep _ (later waited.machine (later dispatched.machine holds))

end Call

namespace Setting

variable {ι σ : Type} {setting : Setting ι σ} {session : Session ι (Recorded ι σ)}
  {id element : ClassId}

/-- The source and the place are all that the native sees. -/
theorem outcome_getClassLoader_alike (holds : setting.registry.HoldsBuiltins) (depth : Nat)
    (thread : ThreadId) {mirror other : Object} (mirrors : mirror.mirrored? = some id)
    (mirrorsOther : other.mirrored? = some element) (home : id.loader = element.loader)
    {type elementType : TypeDescriptor} (typed : session.machine.area.type? id = some type)
    (typedOther : session.machine.area.type? element = some elementType)
    (source : type.source = elementType.source) :
    let executor := setting.executor (Initialization.initClass setting.host depth)
    let key : MethodKey := ⟨.mirror, "getClassLoader0", "()Ljava/lang/ClassLoader;"⟩
    (executor.invoke thread key [.reference (some mirror)]).outcome session =
      (executor.invoke thread key [.reference (some other)]).outcome session := by
  intro executor key
  have listed : (key, Native.getClassLoader) ∈ (Native.builtins : List (MethodKey × Native ι)) := by
    simp [Native.builtins, Native.declared, key]
  rcases holds key _ listed with ⟨descriptor, _, registered⟩
  let entry : RegistryEntry (Native ι) := ⟨Native.getClassLoader, descriptor⟩
  let site (object : Object) : CallSite := ⟨thread, key, [.reference (some object)], 0⟩
  let good (machine : Machine ι) : Prop :=
    machine.area.type? id = some type ∧ machine.area.type? element = some elementType
  have later {before after : Machine ι} (becomes : before.Becomes after) (there : good before) :
      good after :=
    ⟨becomes.retains.type there.1, becomes.retains.type there.2⟩
  have alike (invocation : Invocation ι) (there : good invocation.machine) :
      (entry.handler (site mirror)).outcome invocation =
        (entry.handler (site other)).outcome invocation := by
    have received : (site mirror).receiver? = some id := mirrors
    have receivedOther : (site other).receiver? = some element := mirrorsOther
    dsimp only [entry]
    rw [Native.outcome_getClassLoader received there.1,
      Native.outcome_getClassLoader receivedOther there.2, source, home]
  have develops (thread : ThreadId) (id : ClassId) :
      (executor.initClass thread id).Within Session.Develops :=
    Session.spans_develops.executor (develops_initClass depth) thread id
  have completes := Call.outcome_complete_alike develops (setting.lawful key _ registered)
    later alike executor.limit []
    (show good (Call.mk session Operands.empty).session.machine from ⟨typed, typedOther⟩)
  rw [executor.outcome_invoke registered completes, executor.outcome_invoke registered rfl]

/-- The modifiers of a class are read off its flags. -/
theorem outcome_getModifiers (holds : setting.registry.HoldsBuiltins) (enough : 0 < setting.limit)
    (depth : Nat) (thread : ThreadId) {mirror : Object} (mirrors : mirror.mirrored? = some id)
    {loaded : LoadedClass ι} (found : session.machine.area.class? id = some loaded) :
    ((setting.executor (Initialization.initClass setting.host depth)).invoke thread
      ⟨.mirror, "getModifiers", "()I"⟩ [.reference (some mirror)]).outcome session =
        (.ok (some (.int loaded.flags.modifiers)), session.counted Metrics.countDispatch) := by
  have listed : (⟨.mirror, "getModifiers", "()I"⟩, Native.inquire Machine.getClass
      fun loaded => .int loaded.flags.modifiers) ∈
        (Native.builtins : List (MethodKey × Native ι)) :=
    List.mem_append_right _ (by
      repeat first | exact List.mem_cons_self | apply List.mem_cons_of_mem)
  have looked : (Machine.getClass id).outcome
      (session.counted Metrics.countDispatch).machine =
        (.ok loaded, (session.counted Metrics.countDispatch).machine) := by
    rw [Machine.outcome_getClass]
    exact congrArg (·, _) (Area.loadedClass_eq_ok found)
  have counts (rest : Unit → Action (Machine ι) (Option Value)) :
      (Machine.count Metrics.countDispatch >>= rest).outcome session.machine =
        (rest ()).outcome (session.counted Metrics.countDispatch).machine := rfl
  rw [Executor.outcome_invoke_inquire holds enough listed mirrors
    (Option.isSome_iff_exists.2 ⟨loaded, found⟩), Session.onMachine, Action.outcome_within]
  dsimp only [Session.machinePart]
  rw [counts, Action.outcome_bind, looked]
  rfl

/-- In every reachable machine an array of any dimension has an element, the class at the
end of its components.  It has the loader, the source and the visibility of its element,
and is final and abstract on top of that and nothing else, which is what its modifiers
show.  The superclass and the interfaces of all arrays are three classes of the bootstrap
loader.  An array has no initializer, nothing encloses it and it is a member of no class.
Asked for their loaders, the array and its element give the same answer, and leave the
same session. -/
theorem arrays_inherit (setting : Setting ι σ) (holds : setting.registry.HoldsBuiltins)
    (enough : 0 < setting.limit) (depth : Nat) {session : Session ι (Recorded ι σ)}
    (reachable : session.machine.Reachable) {id : ClassId} {loaded : LoadedClass ι}
    (found : session.machine.area.class? id = some loaded) (isArray : loaded.kind = .array) :
    let area := session.machine.area
    let executor := setting.executor (Initialization.initClass setting.host depth)
    let loaderKey : MethodKey := ⟨.mirror, "getClassLoader0", "()Ljava/lang/ClassLoader;"⟩
    let modifiersKey : MethodKey := ⟨.mirror, "getModifiers", "()I"⟩
    (∃ element, area.IsElement id element) ∧
    (∃ root cloneable serializable, loaded.superclass = some root ∧
      loaded.interfaces = [cloneable, serializable] ∧ area.IsBoot root .object ∧
      area.IsBoot cloneable .cloneable ∧ area.IsBoot serializable .serializable) ∧
    loaded.flags.contains .superFlag = false ∧
    (∀ thread mirror, mirror.mirrored? = some id →
      (executor.invoke thread modifiersKey [.reference (some mirror)]).outcome session =
        (.ok (some (.int (Int32.ofNat loaded.flags.bits.toNat))),
          session.counted Metrics.countDispatch)) ∧
    ∀ element, area.IsElement id element → ∃ type, area.type? element = some type ∧
      area.Inherits id loaded.toTypeDescriptor loaded.initializer element type ∧
      ∀ thread mirror other, mirror.mirrored? = some id → other.mirrored? = some element →
        (executor.invoke thread loaderKey [.reference (some mirror)]).outcome session =
          (executor.invoke thread loaderKey [.reference (some other)]).outcome session := by
  intro area executor loaderKey modifiersKey
  have traced := reachable.traced
  have printed := Area.blueprint?_of_class? found
  have typed := Area.type?_of_class? found
  rcases traced.exists_element reachable.grounded typed isArray with ⟨element, ends⟩
  rcases traced.exists_type ends with ⟨type, behind⟩
  have inherits := traced.inherits ends printed behind
  refine ⟨⟨element, ends⟩, ?_, ?_, fun thread mirror mirrors => ?_, fun other endsOther => ?_⟩
  · rcases (traced.origin printed).boot isArray reachable.booted with
      ⟨root, cloneable, serializable, above, declared, rest⟩
    exact ⟨root, cloneable, serializable, above, declared, rest⟩
  · rw [inherits.flags]
    exact AccessFlags.not_contains_ofArray _
  · have shown : loaded.flags.modifiers = Int32.ofNat loaded.flags.bits.toNat := by
      rw [inherits.flags, AccessFlags.modifiers_ofArray]
    rw [← shown]
    exact outcome_getModifiers holds enough depth thread mirrors found
  · rcases traced.exists_type endsOther with ⟨otherType, behindOther⟩
    have inheritsOther := traced.inherits endsOther printed behindOther
    exact ⟨otherType, behindOther, inheritsOther, fun thread mirror object mirrors mirrorsOther =>
      outcome_getClassLoader_alike holds depth thread mirrors mirrorsOther inheritsOther.home typed
        behindOther inheritsOther.source⟩

/-- The case of an array of two dimensions that a loader finds through its parent, which has
defined the element. -/
theorem arrays_inherit_delegated :
    let setting : Setting Unit Unit :=
      ⟨Native.builtinRegistry, Native.lawful_builtinRegistry, fun _ _ _ => .finish (.ok ()), 2⟩
    let definitions : List (ClassDefinition Unit) :=
      [{ ClassDefinition.ordinary ClassName.object with superName := none },
        .interface ClassName.cloneable, .interface ClassName.serializable,
        .ordinary ClassName.mirror]
    let after {α : Type} (request : Request Unit α) (machine : Machine Unit) :=
      (request.perform.outcome machine).2
    let loaded := after (.load ⟨2⟩ "[[LA;") (after (.addDefinition ⟨1⟩ (.ordinary "A"))
      (after (.addLoader "child" .bootPath (some ⟨1⟩))
        (after (.addLoader "app" (.userPath "app.jar") none) (.initial 0 definitions))))
    let machine := after (.mirror ⟨⟨1⟩, 0⟩) (after (.mirror ⟨⟨1⟩, 2⟩) loaded)
    let session : Session Unit (Recorded Unit Unit) := ⟨machine, (), []⟩
    let mirror (id : ClassId) : Reference := machine.area.mirror? id
    let executor := setting.executor (Initialization.initClass setting.host 1)
    let key : MethodKey := ⟨.mirror, "getClassLoader0", "()Ljava/lang/ClassLoader;"⟩
    machine.Reachable ∧ machine.area.IsElement ⟨⟨1⟩, 2⟩ ⟨⟨1⟩, 0⟩ ∧
      machine.area.HasKind ⟨⟨1⟩, 2⟩ .array ∧
      (mirror ⟨⟨1⟩, 2⟩).isSome ∧ (mirror ⟨⟨1⟩, 0⟩).isSome ∧
      (executor.invoke ⟨1⟩ key [.reference (mirror ⟨⟨1⟩, 2⟩)]).outcome session =
        (executor.invoke ⟨1⟩ key [.reference (mirror ⟨⟨1⟩, 0⟩)]).outcome session := by
  intro setting definitions after loaded machine session mirror executor key
  have reachableLoaded : loaded.Reachable :=
    ((((Machine.reachable_initial 0 definitions).perform _).perform _).perform _).perform _
  have reachable : machine.Reachable := (reachableLoaded.perform _).perform _
  have isArray : (machine.area.class? ⟨⟨1⟩, 2⟩).map (·.kind) = some .array := by decide +kernel
  rcases Option.map_eq_some_iff.1 isArray with ⟨array, found, kind⟩
  have below : (machine.area.type? ⟨⟨1⟩, 2⟩).map (·.component) = some (some ⟨⟨1⟩, 1⟩) := by
    decide +kernel
  have element : (machine.area.type? ⟨⟨1⟩, 1⟩).map (·.component) = some (some ⟨⟨1⟩, 0⟩) := by
    decide +kernel
  have plain : (machine.area.type? ⟨⟨1⟩, 0⟩).map (·.kind) = some .ordinary := by decide +kernel
  have ends : machine.area.IsElement ⟨⟨1⟩, 2⟩ ⟨⟨1⟩, 0⟩ := by
    constructor
    · exact .head (Option.map_eq_some_iff.1 below) (.single (Option.map_eq_some_iff.1 element))
    · rintro ⟨type, typed, isArray⟩
      rw [typed] at plain
      cases isArray.symm.trans (Option.some.inj plain)
  have inherited := setting.arrays_inherit Native.holds_builtinRegistry (by decide) 1
    (show session.machine.Reachable from reachable) found kind
  rcases inherited.2.2.2.2 _ ends with ⟨type, _, _, alike⟩
  have made : (mirror ⟨⟨1⟩, 2⟩).isSome ∧ (mirror ⟨⟨1⟩, 0⟩).isSome := by decide +kernel
  rcases reachable.exists_mirror made.1 with ⟨object, kept, mirrors⟩
  rcases reachable.exists_mirror made.2 with ⟨other, keptOther, mirrorsOther⟩
  refine ⟨reachable, ends, ⟨_, Area.type?_of_class? found, kind⟩, made.1, made.2, ?_⟩
  rw [show mirror ⟨⟨1⟩, 2⟩ = some object from kept,
    show mirror ⟨⟨1⟩, 0⟩ = some other from keptOther]
  exact alike ⟨1⟩ object other mirrors mirrorsOther

end Setting
end ClassRuntime

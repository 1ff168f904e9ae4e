import ClassRuntime.Native.ClassMethods
import ClassRuntime.Proofs.Machine.Faults

namespace ClassRuntime
namespace Native

/-!
# What natives are made of

A native reads its arguments and puts requests to the machine.  Then it gives an
answer, fails, or is put off.  What it may do in the end depends on the category
of the result that its method has, and what it may do before that does not.

The built-in natives are gone through here for all properties of this kind at
once.  All but two of them are never put off.
-/

variable {ι α : Type}

/-- A property of natives.  It consists of what is true of their work on the
machine, of their actions before the end, and of natives whose methods have
results of the given category. -/
structure Serving (works : Action.Property (Machine ι)) (reads : Action.Property (Invocation ι))
    (serves : Category → Action (Invocation ι) Outcome → Prop) : Prop where
  machine : Action.Compositional works
  request : ∀ {α : Type} (request : Request ι α), works α request.perform
  lookUp : ∀ id, works (LoadedClass ι) (Machine.getClass id)
  erroneous : ∀ {α : Type} (name : ClassName), works α (Action.fail (.erroneous name))
  invocation : Action.Compositional reads
  onMachine : ∀ {α : Type} {action : Action (Machine ι) α}, works α action →
    reads α (onMachine action)
  reference : ∀ site index, reads Reference (reference site index)
  fail : ∀ {α : Type} {cause : RuntimeError}, cause.isBreach = false →
    reads α (Action.fail cause)
  complete : serves .void (pure .complete)
  answer : ∀ {value : Value} {category : Category}, value.category = category →
    serves category (answer value)
  refuse : ∀ {category : Category} {cause : RuntimeError}, cause.isBreach = false →
    serves category (Action.fail cause)
  after : ∀ {α : Type} {category : Category} {action : Action (Invocation ι) α}
    {next : α → Action (Invocation ι) Outcome}, reads α action →
      (∀ value, serves category (next value)) → serves category (action >>= next)

/-- A property of natives that may be put off. -/
structure Deferring (works : Action.Property (Machine ι)) (reads : Action.Property (Invocation ι))
    (serves : Category → Action (Invocation ι) Outcome → Prop) : Prop
    extends Serving works reads serves where
  defer : ∀ dependency, serves .reference (defer dependency)

namespace Serving

variable {works : Action.Property (Machine ι)} {reads : Action.Property (Invocation ι)}
  {serves : Category → Action (Invocation ι) Outcome → Prop}

/-! ## Before the end -/

theorem mirrored (serving : Serving works reads serves) (site : CallSite) (object : Object) :
    reads ClassId (mirrored site object) := by
  unfold Native.mirrored
  refine serving.invocation.bind serving.invocation.get fun invocation => ?_
  split
  · exact serving.invocation.pure _
  · exact serving.fail rfl

theorem receiver (serving : Serving works reads serves) (site : CallSite) :
    reads ClassId (receiver site) := by
  unfold Native.receiver
  refine serving.invocation.bind (serving.reference site 0) fun target => ?_
  split
  · exact serving.mirrored site _
  · exact serving.fail rfl

theorem classArgument (serving : Serving works reads serves) (site : CallSite) (index : Nat) :
    reads (Option ClassId) (classArgument site index) := by
  unfold Native.classArgument
  refine serving.invocation.bind (serving.reference site index) fun target => ?_
  split
  · exact serving.invocation.map some (serving.mirrored site _)
  · exact serving.invocation.pure _

theorem perform (serving : Serving works reads serves) (request : Request ι α) :
    reads α (Native.onMachine request.perform) :=
  serving.onMachine (serving.request request)

theorem pendingInitialization (serving : Serving works reads serves) (loader : LoaderId)
    (name : ClassName) : works (Option ClassId) (pendingInitialization loader name) := by
  unfold Native.pendingInitialization
  refine serving.machine.bind (serving.request (.load loader name)) fun id =>
    serving.machine.bind (serving.lookUp id) fun loaded => ?_
  split
  · exact serving.erroneous _
  · split
    · exact serving.machine.pure _
    · exact serving.machine.pure _

/-! ## Natives that are never put off -/

theorem getClass (serving : Serving works reads serves) (site : CallSite) :
    serves .reference (getClass site) := by
  unfold Native.getClass
  refine serving.after (serving.reference site 0) fun target => ?_
  split
  · exact serving.refuse rfl
  next object =>
    refine serving.after serving.invocation.get fun invocation => ?_
    split
    · exact serving.refuse rfl
    · exact serving.after (serving.perform (.mirror object.type)) fun mirror => serving.answer rfl

theorem getPrimitiveClass (serving : Serving works reads serves) (site : CallSite) :
    serves .reference (getPrimitiveClass site) := by
  unfold Native.getPrimitiveClass
  refine serving.after (serving.reference site 0) fun target => ?_
  split
  · exact serving.refuse rfl
  · split
    · exact serving.refuse rfl
    · refine serving.after serving.invocation.get fun invocation => ?_
      split
      · exact serving.refuse rfl
      next id _ =>
        exact serving.after (serving.perform (.mirror id)) fun mirror => serving.answer rfl

theorem answerReference (serving : Serving works reads serves)
    {question : ClassId → Action (Machine ι) Reference}
    (works : ∀ id, works Reference (question id)) (site : CallSite) :
    serves .reference (answerReference question site) :=
  serving.after (serving.receiver site) fun id =>
    serving.after (serving.onMachine (works id)) fun _ => serving.answer rfl

theorem answerDescriptor (serving : Serving works reads serves)
    {question : TypeDescriptor → Value} {category : Category}
    (answers : ∀ type, (question type).category = category) (site : CallSite) :
    serves category (answerDescriptor question site) := by
  exact serving.after (serving.receiver site) fun id =>
    serving.after (serving.onMachine (serving.lookUp id)) fun loaded =>
    serving.answer (answers loaded.toTypeDescriptor)

theorem isAssignableFrom (serving : Serving works reads serves) (site : CallSite) :
    serves .int (isAssignableFrom site) := by
  unfold Native.isAssignableFrom
  refine serving.after (serving.receiver site) fun target =>
    serving.after (serving.classArgument site 1) fun argument => ?_
  split
  · exact serving.refuse rfl
  next source =>
    exact serving.after (serving.perform (.isAssignable source target)) fun assignable =>
      serving.answer rfl

theorem isInstance (serving : Serving works reads serves) (site : CallSite) :
    serves .int (isInstance site) :=
  serving.after (serving.receiver site) fun id =>
    serving.after (serving.reference site 1) fun target =>
    serving.after (serving.perform (.isInstance target id)) fun _ => serving.answer rfl

end Serving

/-! ## Natives that may be put off -/

namespace Deferring

variable {works : Action.Property (Machine ι)} {reads : Action.Property (Invocation ι)}
  {serves : Category → Action (Invocation ι) Outcome → Prop}

theorem getClassLoader (deferring : Deferring works reads serves) (site : CallSite) :
    serves .reference (getClassLoader site) := by
  have answered (id : ClassId) : serves .reference (do
      let handle ← onMachine (Machine.classLoader id)
      Native.answer (.reference handle)) :=
    deferring.after (deferring.perform (.classLoader id)) fun handle => deferring.answer rfl
  unfold Native.getClassLoader
  refine deferring.after (deferring.receiver site) fun id =>
    deferring.after (deferring.onMachine (deferring.lookUp id)) fun loaded => ?_
  split
  · refine deferring.after (deferring.invocation.pure none) fun pending => ?_
    cases pending with
    | some dependency => exact deferring.defer dependency
    | none => exact answered id
  · refine deferring.after (deferring.onMachine
      (deferring.pendingInitialization id.loader .loaderHandle)) fun pending => ?_
    cases pending with
    | some dependency => exact deferring.defer dependency
    | none => exact answered id

theorem getConstantPool (deferring : Deferring works reads serves) (site : CallSite) :
    serves .reference (getConstantPool site) := by
  unfold Native.getConstantPool
  refine deferring.after (deferring.receiver site) fun id => deferring.after
    (deferring.onMachine (deferring.pendingInitialization .bootstrap .constantPool))
      fun pending => ?_
  split
  · exact deferring.defer _
  · exact deferring.after (deferring.perform (.pool id)) fun pool => deferring.answer rfl

end Deferring

/-! ## All built-in natives -/

/-- The native has the properties of natives with results of the category, and
is never put off. -/
def Prompt (category : Category) (native : Native ι) : Prop :=
  ∀ {works reads serves}, Serving works reads serves → ∀ site, serves category (native site)

/-- The methods whose natives may be put off. -/
def waitingMethods : List MethodKey :=
  [⟨.mirror, "getClassLoader0", "()Ljava/lang/ClassLoader;"⟩,
    ⟨.mirror, "getConstantPool", "()Lsun/reflect/ConstantPool;"⟩]

/-- The built-in natives, each with its method.  What has to be shown of all of them is
shown by cases. -/
inductive Builtin : MethodKey → Native ι → Prop
  | getClass : Builtin ⟨.object, "getClass", "()Ljava/lang/Class;"⟩ getClass
  | registerNatives : Builtin ⟨.mirror, "registerNatives", "()V"⟩ registerNatives
  | getPrimitiveClass :
      Builtin ⟨.mirror, "getPrimitiveClass", "(Ljava/lang/String;)Ljava/lang/Class;"⟩
        getPrimitiveClass
  | desiredAssertionStatus :
      Builtin ⟨.mirror, "desiredAssertionStatus0", "(Ljava/lang/Class;)Z"⟩ desiredAssertionStatus
  | getClassLoader :
      Builtin ⟨.mirror, "getClassLoader0", "()Ljava/lang/ClassLoader;"⟩ getClassLoader
  | getComponentType : Builtin ⟨.mirror, "getComponentType", "()Ljava/lang/Class;"⟩ getComponentType
  | getConstantPool :
      Builtin ⟨.mirror, "getConstantPool", "()Lsun/reflect/ConstantPool;"⟩ getConstantPool
  | getDeclaringClass :
      Builtin ⟨.mirror, "getDeclaringClass0", "()Ljava/lang/Class;"⟩ getDeclaringClass
  | getEnclosingMethod :
      Builtin ⟨.mirror, "getEnclosingMethod0", "()[Ljava/lang/Object;"⟩ getEnclosingMethod
  | getInterfaces : Builtin ⟨.mirror, "getInterfaces0", "()[Ljava/lang/Class;"⟩ getInterfaces
  | getModifiers : Builtin ⟨.mirror, "getModifiers", "()I"⟩ getModifiers
  | getName : Builtin ⟨.mirror, "getName0", "()Ljava/lang/String;"⟩ getName
  | getSuperclass : Builtin ⟨.mirror, "getSuperclass", "()Ljava/lang/Class;"⟩ getSuperclass
  | isArray : Builtin ⟨.mirror, "isArray", "()Z"⟩ isArray
  | isAssignableFrom :
      Builtin ⟨.mirror, "isAssignableFrom", "(Ljava/lang/Class;)Z"⟩ isAssignableFrom
  | isInstance : Builtin ⟨.mirror, "isInstance", "(Ljava/lang/Object;)Z"⟩ isInstance
  | isInterface : Builtin ⟨.mirror, "isInterface", "()Z"⟩ isInterface
  | isPrimitive : Builtin ⟨.mirror, "isPrimitive", "()Z"⟩ isPrimitive

theorem builtin_of_listed {key : MethodKey} {native : Native ι}
    (listed : (key, native) ∈ (builtins : List (MethodKey × Native ι))) : Builtin key native := by
  simp only [builtins, declared, List.map_cons, List.map_nil, List.cons_append, List.nil_append,
    List.mem_cons, Prod.mk.injEq, List.not_mem_nil, or_false] at listed
  rcases listed with ⟨rfl, rfl⟩ | ⟨rfl, rfl⟩ | ⟨rfl, rfl⟩ | ⟨rfl, rfl⟩ | ⟨rfl, rfl⟩ |
    ⟨rfl, rfl⟩ | ⟨rfl, rfl⟩ | ⟨rfl, rfl⟩ | ⟨rfl, rfl⟩ | ⟨rfl, rfl⟩ | ⟨rfl, rfl⟩ |
    ⟨rfl, rfl⟩ | ⟨rfl, rfl⟩ | ⟨rfl, rfl⟩ | ⟨rfl, rfl⟩ | ⟨rfl, rfl⟩ | ⟨rfl, rfl⟩ | ⟨rfl, rfl⟩ <;>
    constructor

/-- The result of each built-in native is of the category that its descriptor
says, and two of them may be put off. -/
theorem builtin_cases {key : MethodKey} {native : Native ι}
    (listed : (key, native) ∈ (builtins : List (MethodKey × Native ι))) :
    ∃ category, (MethodDescriptor.parse key.descriptor).map MethodDescriptor.resultCategory =
        .ok category ∧
      (native.Prompt category ∨ category = .reference ∧ key ∈ waitingMethods ∧
        (native = getClassLoader ∨ native = getConstantPool)) := by
  have reference {question : ClassId → Action (Machine ι) Reference}
      (asks : ∀ {works reads serves}, Serving works reads serves → ∀ id, works _ (question id)) :
      (answerReference question).Prompt .reference :=
    fun serving => serving.answerReference (asks serving)
  have truth (question : TypeDescriptor → Bool) :
      (answerDescriptor fun type => .ofBool (question type) : Native ι).Prompt .int :=
    fun serving => serving.answerDescriptor fun _ => rfl
  cases builtin_of_listed listed with
  | getClass => exact ⟨.reference, by decide +kernel, .inl fun serving => serving.getClass⟩
  | registerNatives => exact ⟨.void, by decide +kernel, .inl fun serving _ => serving.complete⟩
  | getPrimitiveClass =>
    exact ⟨.reference, by decide +kernel, .inl fun serving => serving.getPrimitiveClass⟩
  | desiredAssertionStatus =>
    exact ⟨.int, by decide +kernel, .inl fun serving _ => serving.answer rfl⟩
  | getClassLoader => exact ⟨.reference, by decide +kernel, .inr ⟨rfl, by decide, .inl rfl⟩⟩
  | getComponentType =>
    exact ⟨.reference, by decide +kernel, .inl (reference fun serving id =>
      serving.request (.componentType id))⟩
  | getConstantPool => exact ⟨.reference, by decide +kernel, .inr ⟨rfl, by decide, .inr rfl⟩⟩
  | getDeclaringClass =>
    exact ⟨.reference, by decide +kernel, .inl (reference fun serving id =>
      serving.request (.declaringClass id))⟩
  | getEnclosingMethod =>
    exact ⟨.reference, by decide +kernel, .inl (reference fun serving id =>
      serving.request (.enclosingMethod id))⟩
  | getInterfaces =>
    exact ⟨.reference, by decide +kernel, .inl (reference fun serving id =>
      serving.machine.map some (serving.request (.interfaces id)))⟩
  | getModifiers =>
    exact ⟨.int, by decide +kernel, .inl fun serving =>
      serving.answerDescriptor fun _ => rfl⟩
  | getName =>
    exact ⟨.reference, by decide +kernel, .inl (reference fun serving id =>
      serving.machine.map some (serving.request (.nameText id)))⟩
  | getSuperclass =>
    exact ⟨.reference, by decide +kernel, .inl (reference fun serving id =>
      serving.request (.superclass id))⟩
  | isArray => exact ⟨.int, by decide +kernel, .inl (truth _)⟩
  | isAssignableFrom =>
    exact ⟨.int, by decide +kernel, .inl fun serving => serving.isAssignableFrom⟩
  | isInstance => exact ⟨.int, by decide +kernel, .inl fun serving => serving.isInstance⟩
  | isInterface => exact ⟨.int, by decide +kernel, .inl (truth _)⟩
  | isPrimitive => exact ⟨.int, by decide +kernel, .inl (truth _)⟩

end Native
end ClassRuntime

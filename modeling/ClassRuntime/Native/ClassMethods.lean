import ClassRuntime.Native.Handler

namespace ClassRuntime
namespace Native

/-!
# Natives of classes and objects

The methods by which a program looks at its own classes.  Two of them hand out
objects of further classes, and are put off until those are initialized.
-/

variable {ι : Type}

/-- Nothing has to be done to register natives. -/
def registerNatives : Native ι := fun _ => pure .complete

/-- Assertions are never enabled. -/
def desiredAssertionStatus : Native ι := fun _ => answer (.ofBool false)

/-- The class of the receiver, which may be any object. -/
def getClass : Native ι := fun site => do
  match ← reference site 0 with
  | none => Action.fail (.nullReceiver site.method.text)
  | some object => do
    if ((← get).machine.area.class? object.type).isNone then
      Action.fail (malformed site .object)
    else do
      let mirror ← onMachine (Machine.mirrorOf object.type)
      answer (.reference (some mirror))

/-- The class of the primitive type with the given keyword. -/
def getPrimitiveClass : Native ι := fun site => do
  match ← reference site 0 with
  | none => Action.fail (.nullPointer site.method.text)
  | some object =>
    match object.content? with
    | none => Action.fail (malformed site .string)
    | some keyword => do
      match (← get).machine.area.primitiveClass? keyword with
      | none => Action.fail (.classNotFound keyword)
      | some id => do
        let mirror ← onMachine (Machine.mirrorOf id)
        answer (.reference (some mirror))

/-- The loader of the receiver.  Classes of the boot path have none, and need
no other class to say so. -/
def getClassLoader : Native ι := fun site => do
  let id ← receiver site
  let loaded ← onMachine (Machine.getClass id)
  let pending ←
    if loaded.source = .bootPath then pure none
    else onMachine (pendingInitialization id.loader .loaderHandle)
  match pending with
  | some dependency => defer dependency
  | none => do
    let handle ← onMachine (Machine.classLoader id)
    answer (.reference handle)

/-- The constant pool of the receiver. -/
def getConstantPool : Native ι := fun site => do
  let id ← receiver site
  match ← onMachine (pendingInitialization .bootstrap .constantPool) with
  | some dependency => defer dependency
  | none => do
    let pool ← onMachine (Machine.poolOf id)
    answer (.reference (some pool))

/-- Answer a question about the receiver with a reference. -/
def answerReference (question : ClassId → Action (Machine ι) Reference) : Native ι :=
  fun site => do
    let id ← receiver site
    let target ← onMachine (question id)
    answer (.reference target)

/-- Answer a question about the receiver by looking at its descriptor. -/
def answerDescriptor (question : TypeDescriptor → Value) : Native ι := fun site => do
  let id ← receiver site
  let loaded ← onMachine (Machine.getClass id)
  answer (question loaded.toTypeDescriptor)

/-- The component of the receiver. -/
def getComponentType : Native ι := answerReference Machine.componentType

/-- The class of which the receiver is a member. -/
def getDeclaringClass : Native ι := answerReference Machine.declaringClass

/-- What encloses the receiver. -/
def getEnclosingMethod : Native ι := answerReference Machine.enclosingMethod

/-- The interfaces that the receiver declares. -/
def getInterfaces : Native ι := answerReference fun id => some <$> Machine.interfaces id

/-- The name of the receiver. -/
def getName : Native ι := answerReference fun id => some <$> Machine.nameText id

/-- The superclass of the receiver. -/
def getSuperclass : Native ι := answerReference Machine.superclass

/-- The modifiers of the receiver. -/
def getModifiers : Native ι := answerDescriptor fun type => .int type.flags.modifiers

/-- Whether the receiver is an array class. -/
def isArray : Native ι := answerDescriptor fun type => .ofBool type.isArray

/-- Whether the receiver is an interface. -/
def isInterface : Native ι := answerDescriptor fun type => .ofBool type.isInterface

/-- Whether the receiver is the class of a primitive type. -/
def isPrimitive : Native ι := answerDescriptor fun type => .ofBool type.isPrimitive

/-- Whether the class in the argument is assignable to the receiver. -/
def isAssignableFrom : Native ι := fun site => do
  let target ← receiver site
  match ← classArgument site 1 with
  | none => Action.fail (.nullPointer site.method.text)
  | some source => do
    let assignable ← onMachine (Machine.isAssignable source target)
    answer (.ofBool assignable)

/-- Whether the argument is an instance of the receiver. -/
def isInstance : Native ι := fun site => do
  let id ← receiver site
  let target ← reference site 1
  let result ← onMachine (Machine.isInstance target id)
  answer (.ofBool result)

/-- The natives of a class. -/
def declared (owner : ClassName) (methods : List (String × String × Native ι)) :
    List (MethodKey × Native ι) :=
  methods.map fun (name, descriptor, native) => (⟨owner, name, descriptor⟩, native)

/-- The natives that every runtime has. -/
def builtins : List (MethodKey × Native ι) :=
  declared .object [("getClass", "()Ljava/lang/Class;", getClass)] ++
  declared .mirror
    [("registerNatives", "()V", registerNatives),
      ("getPrimitiveClass", "(Ljava/lang/String;)Ljava/lang/Class;", getPrimitiveClass),
      ("desiredAssertionStatus0", "(Ljava/lang/Class;)Z", desiredAssertionStatus),
      ("getClassLoader0", "()Ljava/lang/ClassLoader;", getClassLoader),
      ("getComponentType", "()Ljava/lang/Class;", getComponentType),
      ("getConstantPool", "()Lsun/reflect/ConstantPool;", getConstantPool),
      ("getDeclaringClass0", "()Ljava/lang/Class;", getDeclaringClass),
      ("getEnclosingMethod0", "()[Ljava/lang/Object;", getEnclosingMethod),
      ("getInterfaces0", "()[Ljava/lang/Class;", getInterfaces),
      ("getModifiers", "()I", getModifiers),
      ("getName0", "()Ljava/lang/String;", getName),
      ("getSuperclass", "()Ljava/lang/Class;", getSuperclass),
      ("isArray", "()Z", isArray),
      ("isAssignableFrom", "(Ljava/lang/Class;)Z", isAssignableFrom),
      ("isInstance", "(Ljava/lang/Object;)Z", isInstance),
      ("isInterface", "()Z", isInterface),
      ("isPrimitive", "()Z", isPrimitive)]

/-- The registry that holds the built-in natives and nothing else. -/
def builtinRegistry : Registry (Native ι) := .ofList builtins

end Native
end ClassRuntime

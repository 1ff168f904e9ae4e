import ClassRuntime.CommandLine.Arguments
import ClassRuntime.Execution.Invocation
import ClassRuntime.Loader.BootPath
import ClassRuntime.Text.Hexadecimal

namespace ClassRuntime
namespace CommandLine

/-!
# Reports on classes

The command line describes classes of the boot path as the natives report them
to a program.  Each class is described on its own; one that cannot be found is
reported as an error and does not keep the others from being described.
-/

/-- The session of the command line.  The boot path has no initializers. -/
abbrev BootSession := Session Empty Unit

/-- There is no initializer to be run. -/
def host : Host Empty Unit := ⟨fun _ code => code.elim⟩

/-- Calls with the built-in natives.  Each of them is put off at most once. -/
def executor : Executor Empty Unit where
  registry := Native.builtinRegistry
  initClass := Initialization.initClass host 0
  limit := 2

/-- A session that has done nothing. -/
def start : BootSession := ⟨.initial 0 BootPath.definitions, ()⟩

/-- What is said of a class. -/
structure Description where
  name : String
  kind : String
  modifiers : Int32
  superclass : String
  interfaces : List String
  component : String
  declaring : String

/-- The description in words. -/
def Description.text (description : Description) : String :=
  description.name ++ " (" ++ description.kind ++ ")\n" ++
    "  modifiers:  0x" ++ Text.hexadecimal 4 description.modifiers.toInt.toNat ++ "\n" ++
    "  superclass: " ++ description.superclass ++ "\n" ++
    "  interfaces: " ++ Text.list description.interfaces ++ "\n" ++
    "  component:  " ++ description.component ++ "\n" ++
    "  declaring:  " ++ description.declaring

/-- Ask a native about the class with the given mirror. -/
def ask (thread : ThreadId) (mirror : Object) (name descriptor : String) :
    Action BootSession Value := do
  let answer ← executor.invoke thread ⟨ClassName.mirror, name, descriptor⟩
    [.reference (some mirror)]
  pure (answer.getD .null)

/-- The name of a class by its mirror, a dash if there is no class. -/
def mirroredName (reference : Reference) : Action BootSession String :=
  match reference.bind Object.mirrored? with
  | some id => do
    let loaded ← Session.onMachine (Machine.getClass id)
    pure loaded.binaryName
  | none => pure "-"

/-- The names of classes by their mirrors. -/
def mirroredNames : List Reference → Action BootSession (List String)
  | [] => pure []
  | first :: rest => do
    let name ← mirroredName first
    let names ← mirroredNames rest
    pure (name :: names)

/-- The reference in an answer. -/
def answerReference (value : Value) : Reference := value.reference?.join

/-- The kind of a class in one word. -/
def kindName (thread : ThreadId) (mirror : Object) : Action BootSession String := do
  if (← ask thread mirror "isPrimitive" "()Z").bool? = some true then pure "primitive"
  else if (← ask thread mirror "isArray" "()Z").bool? = some true then pure "array"
  else if (← ask thread mirror "isInterface" "()Z").bool? = some true then pure "interface"
  else pure "class"

/-- Describe the class that a user calls by the given name. -/
def describe (thread : ThreadId) (name : String) : Action BootSession Description := do
  let id ← Session.onMachine (Machine.resolve .bootstrap name)
  let mirror ← Session.onMachine (Machine.mirrorOf id)
  let reported ← ask thread mirror "getName0" "()Ljava/lang/String;"
  let modifiers ← ask thread mirror "getModifiers" "()I"
  let superclass ← ask thread mirror "getSuperclass" "()Ljava/lang/Class;"
  let component ← ask thread mirror "getComponentType" "()Ljava/lang/Class;"
  let declaring ← ask thread mirror "getDeclaringClass0" "()Ljava/lang/Class;"
  let interfaces ← ask thread mirror "getInterfaces0" "()[Ljava/lang/Class;"
  let kind ← kindName thread mirror
  let mirrors := ((answerReference interfaces).bind Object.elements?).getD []
  pure {
    name := ((answerReference reported).bind Object.content?).getD "-"
    kind
    modifiers := modifiers.int?.getD 0
    superclass := ← mirroredName (answerReference superclass)
    interfaces := ← mirroredNames mirrors
    component := ← mirroredName (answerReference component)
    declaring := ← mirroredName (answerReference declaring) }

/-- What a program has written and whether it has failed. -/
structure Output where
  stdout : String
  stderr : String
  failed : Bool
  deriving DecidableEq, Inhabited

/-- One output after another. -/
def Output.append (first second : Output) : Output :=
  ⟨first.stdout ++ second.stdout, first.stderr ++ second.stderr, first.failed || second.failed⟩

/-- The output for one class. -/
def outputFor (name : String) : Except Fault Description → Output
  | .ok description => ⟨description.text ++ "\n", "", false⟩
  | .error fault => ⟨"", name ++ ": " ++ fault.message ++ "\n", true⟩

/-- Describe classes one after another in one session. -/
def describeAll (thread : ThreadId) : List String → Action BootSession Output
  | [] => pure ⟨"", "", false⟩
  | name :: rest => do
    let result ← Action.attempt (describe thread name)
    let others ← describeAll thread rest
    pure ((outputFor name result).append others)

/-- The output for a list of classes, in a session of its own. -/
def describeFresh (classes : List String) : Output :=
  let action := do
    let thread ← Session.onMachine Machine.attach
    describeAll thread classes
  match (action.outcome start).1 with
  | .ok output => output
  | .error fault => ⟨"", fault.message ++ "\n", true⟩

/-- The names of the boot path, one a line. -/
def listing : String :=
  let loader : Loader Empty := .bootstrap BootPath.definitions
  String.join (loader.definitionNames.map fun name => name.binary ++ "\n")

/-- How a run of the program ends.  What is written about arguments that are
no request is not laid down. -/
structure Report where
  exitCode : Nat
  stdout : String
  stderr : Option String
  deriving DecidableEq, Inhabited

/-- The report on a request. -/
def Request.report : Request → Report
  | .version => ⟨0, "jvm-rs 0.1.0\n", some ""⟩
  | .describe list classes =>
    let output := describeFresh classes
    ⟨if output.failed then 1 else 0,
      (if list then listing else "") ++ output.stdout, some output.stderr⟩

/-- The report on a run with the given arguments. -/
def report (arguments : List String) : Report :=
  match Request.ofArguments? arguments with
  | some request => request.report
  | none => ⟨2, "", none⟩

end CommandLine
end ClassRuntime

import ClassRuntime.Text.Quoted
import ClassRuntime.Text.Record
import ClassRuntime.ClassName.Array
import ClassRuntime.AccessFlags
import ClassRuntime.MethodDescriptor.Parser
import ClassRuntime.Action
import ClassRuntime.Class.Definition
import ClassRuntime.Class.Progress
import ClassRuntime.Table
import ClassRuntime.Value
import ClassRuntime.Class.Hierarchy
import ClassRuntime.Loader.Loading
import ClassRuntime.Loader.BootPath
import ClassRuntime.Machine.Reflection
import ClassRuntime.Native.ClassMethods
import ClassRuntime.Execution.Invocation
import ClassRuntime.Main
import ClassRuntime.Proofs.Loader.Hierarchy
import ClassRuntime.Proofs.Machine.Reachability
import ClassRuntime.Proofs.Loader.Independence
import ClassRuntime.Proofs.Loader.Identity
import ClassRuntime.Proofs.Loader.Termination
import ClassRuntime.Proofs.Execution.Discipline
import ClassRuntime.Proofs.Execution.Contract
import ClassRuntime.Proofs.Class.Extension
import ClassRuntime.Proofs.Machine.Questions
import ClassRuntime.Proofs.Execution.Assignability
import ClassRuntime.Proofs.Machine.Mirrors
import ClassRuntime.Proofs.Machine.Safety
import ClassRuntime.Proofs.ClassName.Array
import ClassRuntime.Proofs.Machine.Arrays
import ClassRuntime.Proofs.Execution.ForeignMirrors
import ClassRuntime.Proofs.Native.Safety
import ClassRuntime.Proofs.Execution.ForeignObjects
import ClassRuntime.Proofs.Loader.Delegation
import ClassRuntime.Proofs.Loader.Circularity
import ClassRuntime.Proofs.Machine.Failures
import ClassRuntime.Proofs.Execution.ClassObjects
import ClassRuntime.Proofs.MethodDescriptor.RoundTrip
import ClassRuntime.Proofs.Execution.Persistence
import ClassRuntime.Proofs.Machine.Components
import ClassRuntime.Proofs.CommandLine.Independence
import ClassRuntime.Proofs.Execution.ArrayClasses
import ClassRuntime.Proofs.Execution.Walk
import ClassRuntime.Proofs.Execution.Nesting
import ClassRuntime.Proofs.Execution.ReadyObjects
import ClassRuntime.Proofs.Native.Registration
import ClassRuntime.Proofs.Execution.Resumption
import ClassRuntime.Proofs.Execution.Rejection
import ClassRuntime.Proofs.Machine.Names
import ClassRuntime.Proofs.Class.Ownership

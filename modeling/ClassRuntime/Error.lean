import ClassRuntime.MethodDescriptor.Basic
import ClassRuntime.Text.Quoted

namespace ClassRuntime

/-!
# Errors

An operation of the runtime fails for one of the causes below.  Some causes
are raised in the running program as an exception of a fixed class; the others
are faults of the host or of a native and abort the call.
-/

/-- What identifies a native method: the internal name of the class that
declares it, its own name, and its descriptor. -/
structure MethodKey where
  owner : ClassName
  name : String
  descriptor : String
  deriving DecidableEq, Inhabited

/-- The method as messages name it. -/
def MethodKey.text (key : MethodKey) : String :=
  key.owner ++ "." ++ key.name ++ key.descriptor

/-- Why an operation failed. -/
inductive RuntimeError where
  | classNotFound (name : ClassName)
  | classCircularity (name : ClassName)
  | incompatibleClassChange (name inherited : ClassName)
  | unsatisfiedLink (key : MethodKey)
  | malformedDescriptor (descriptor reason : String)
  | malformedReceiver (method expected : String)
  | nullReceiver (method : String)
  | nullPointer (method : String)
  | resultMismatch (method : String) (pushed expected : Nat)
  | resultTypeMismatch (method : String) (pushed expected : Category)
  | deferredWithoutRewind (method : String)
  | initializationStalled (method : String) (name : ClassName)
  | initializationFailed (name : ClassName) (reason : String)
  | erroneous (name : ClassName)
  | slotOutOfRange (index length : Nat)
  | slotTypeMismatch (index : Nat) (expected : String)
  deriving DecidableEq, Inhabited

namespace RuntimeError

/-- The cause in one word. -/
def name : RuntimeError → String
  | .classNotFound _ => "ClassNotFound"
  | .classCircularity _ => "ClassCircularity"
  | .incompatibleClassChange .. => "IncompatibleClassChange"
  | .unsatisfiedLink _ => "UnsatisfiedLink"
  | .malformedDescriptor .. => "MalformedDescriptor"
  | .malformedReceiver .. => "MalformedReceiver"
  | .nullReceiver _ => "NullReceiver"
  | .nullPointer _ => "NullPointer"
  | .resultMismatch .. => "ResultMismatch"
  | .resultTypeMismatch .. => "ResultTypeMismatch"
  | .deferredWithoutRewind _ => "DeferredWithoutRewind"
  | .initializationStalled .. => "InitializationStalled"
  | .initializationFailed .. => "InitializationFailed"
  | .erroneous _ => "Erroneous"
  | .slotOutOfRange .. => "SlotOutOfRange"
  | .slotTypeMismatch .. => "SlotTypeMismatch"

/-- The error in words. -/
def message : RuntimeError → String
  | .classNotFound name => "Class not found: " ++ name
  | .classCircularity name => "Class circularity detected while loading " ++ name
  | .incompatibleClassChange name inherited =>
    "Class " ++ name ++ " cannot extend interface or array type " ++ inherited
  | .unsatisfiedLink key => "No native handler registered for " ++ key.text
  | .malformedDescriptor descriptor reason =>
    "Malformed method descriptor " ++ Text.quoted descriptor ++ ": " ++ reason
  | .malformedReceiver method expected =>
    "Native " ++ method ++ " invoked on a receiver without a " ++ expected ++ " payload"
  | .nullReceiver method => "Native " ++ method ++ " invoked with a null receiver"
  | .nullPointer method => "Null reference passed to " ++ method
  | .resultMismatch method pushed expected =>
    "Native " ++ method ++ " pushed " ++ toString pushed ++
      " result values, descriptor expects " ++ toString expected
  | .resultTypeMismatch method pushed expected =>
    "Native " ++ method ++ " returned a " ++ pushed.name ++
      " result, descriptor expects " ++ expected.name
  | .deferredWithoutRewind method =>
    "Native " ++ method ++ " deferred without rewinding its frame"
  | .initializationStalled method name =>
    "Native " ++ method ++ " deferred on " ++ name ++ " again after it was initialized"
  | .initializationFailed name reason =>
    "Static initializer of " ++ name ++ " failed: " ++ reason
  | .erroneous name =>
    "Class " ++ name ++ " is in an erroneous state after a failed initialization"
  | .slotOutOfRange index length =>
    "Argument slot " ++ toString index ++ " out of range (" ++ toString length ++ " slots)"
  | .slotTypeMismatch index expected =>
    "Type mismatch in slot " ++ toString index ++ ": expected " ++ expected

/-- The class of the exception that the running program sees. -/
def guestException : RuntimeError → Option ClassName
  | .classNotFound _ => some "java/lang/NoClassDefFoundError"
  | .erroneous _ => some "java/lang/NoClassDefFoundError"
  | .classCircularity _ => some "java/lang/ClassCircularityError"
  | .incompatibleClassChange .. => some "java/lang/IncompatibleClassChangeError"
  | .nullPointer _ => some "java/lang/NullPointerException"
  | .initializationFailed .. => some "java/lang/ExceptionInInitializerError"
  | .unsatisfiedLink _ => some "java/lang/UnsatisfiedLinkError"
  | .malformedDescriptor .. => none
  | .malformedReceiver .. => none
  | .nullReceiver _ => none
  | .resultMismatch .. => none
  | .resultTypeMismatch .. => none
  | .deferredWithoutRewind _ => none
  | .initializationStalled .. => none
  | .slotOutOfRange .. => none
  | .slotTypeMismatch .. => none

end RuntimeError
end ClassRuntime

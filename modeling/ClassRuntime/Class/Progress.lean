import ClassRuntime.Handle

namespace ClassRuntime

/-!
# Progress of initialization

A class is initialized at most once, by the thread that claims it first.  That
thread may come across the class again while it runs the initializer and then
goes on as if it were done; any other thread has to wait for the end.
-/

/-- How far the initialization of a class has come. -/
inductive Progress where
  | notStarted
  | inProgress (owner : ThreadId)
  | initialized
  | failed
  deriving DecidableEq, Inhabited

/-- What a thread that needs the class has to do. -/
inductive Claim where
  /-- Run the initializer: the class now belongs to the thread. -/
  | execute
  /-- Nothing: the class is ready. -/
  | initialized
  /-- Nothing: the thread itself is running the initializer. -/
  | recursive
  /-- Give up: the initializer has failed before. -/
  | failed
  /-- Wait until another thread has run the initializer. -/
  | waiting
  deriving DecidableEq, Inhabited

/-- The claim in one word. -/
def Claim.name : Claim → String
  | .execute => "Execute"
  | .initialized => "Initialized"
  | .recursive => "Recursive"
  | .failed => "Failed"
  | .waiting => "Waiting"

namespace Progress

/-- A thread asks for the class. -/
def claim (thread : ThreadId) : Progress → Claim × Progress
  | .notStarted => (.execute, .inProgress thread)
  | .inProgress owner =>
    (if owner = thread then .recursive else .waiting, .inProgress owner)
  | .initialized => (.initialized, .initialized)
  | .failed => (.failed, .failed)

/-- What a waiting thread finds in the end.  It finds nothing as long as the
class is in progress. -/
def wait? : Progress → Option Progress
  | .inProgress _ => none
  | settled => some settled

/-- Whether no thread has claimed the class. -/
def isNotStarted (progress : Progress) : Bool := progress = .notStarted

/-- Whether the class is ready. -/
def isInitialized (progress : Progress) : Bool := progress = .initialized

/-- Whether the initializer has failed. -/
def isFailed (progress : Progress) : Bool := progress = .failed

/-- The place in the order in which progress is made. -/
def stage : Progress → Nat
  | .notStarted => 0
  | .inProgress _ => 1
  | .initialized => 2
  | .failed => 3

/-- The progress in words. -/
def text : Progress → String
  | .notStarted => "not started"
  | .inProgress owner => "in progress on thread " ++ toString owner.number
  | .initialized => "initialized"
  | .failed => "failed"

end Progress
end ClassRuntime

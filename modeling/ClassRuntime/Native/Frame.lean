import ClassRuntime.Error
import ClassRuntime.Value

namespace ClassRuntime

/-!
# Frames

The frame of a native call holds its arguments and the place of the call, which
stay as they are, and the operands, which the native works on.  A native that
rewinds its frame makes the same call the one to be executed next.

Places are unbounded here, as are the numbers of handles.  What is described are
calls after which the next place still fits into a machine word.
-/

/-- What a native can change: a stack of values, the last one on top, and
whether the call is to be executed again. -/
structure Operands where
  stack : Array Value
  rewound : Bool
  deriving Inhabited

namespace Operands

/-- The operands at the start of a call. -/
def empty : Operands := ⟨#[], false⟩

/-- Put a value on top. -/
def push (operands : Operands) (value : Value) : Operands :=
  { operands with stack := operands.stack.push value }

/-- Take the value on top away, if there is one. -/
def pop (operands : Operands) : Option Value × Operands :=
  (operands.stack.back?, { operands with stack := operands.stack.pop })

/-- Make the call the one to be executed next. -/
def rewind (operands : Operands) : Operands :=
  { operands with rewound := true }

end Operands

/-- The arguments of a call, the receiver first, and one for each parameter. -/
abbrev Arguments := List Value

/-- The reference that an argument holds. -/
def Arguments.reference (arguments : Arguments) (index : Nat) :
    Except RuntimeError Reference :=
  match arguments[index]? with
  | none => .error (.slotOutOfRange index arguments.length)
  | some value =>
    match value.reference? with
    | none => .error (.slotTypeMismatch index "reference")
    | some target => .ok target

/-- The frame of a native call. -/
structure Frame where
  arguments : Arguments
  /-- The place of the call. -/
  place : Nat
  operands : Operands
  deriving Inhabited

namespace Frame

/-- The frame of a call that has not begun. -/
def create (arguments : Arguments) (place : Nat) : Frame := ⟨arguments, place, .empty⟩

/-- The place where execution goes on. -/
def next (frame : Frame) : Nat :=
  if frame.operands.rewound then frame.place else frame.place + 1

end Frame
end ClassRuntime

import ClassRuntime.Action
import ClassRuntime.Class.Descriptor

namespace ClassRuntime

/-!
# Class hierarchy

The classes of a runtime form a graph whose edges lead to the superclass and
to the declared interfaces.  Its supertypes are walked breadth first, and a
class is assignable to another when the walk meets it, when the other is the
root, or when both are arrays with assignable components.
-/

/-- A finite graph of classes: how a handle is resolved, and the handles that
can be. -/
structure ClassGraph where
  type : ClassId → Except Fault TypeDescriptor
  ids : List ClassId

namespace ClassGraph

/-- Take from the queue the first class that has not been seen. -/
def next? (seen : List ClassId) : List ClassId → Option (ClassId × List ClassId)
  | [] => none
  | first :: rest => if first ∈ seen then next? seen rest else some (first, rest)

/-- Continue a breadth-first walk that has met the classes in `seen`.  A class may stand in the
queue more than once, and only its first turn counts. -/
def walk (graph : ClassGraph) (limit : Nat) (seen queue : List ClassId) :
    Except Fault (List ClassId) :=
  match next? seen queue with
  | none => .ok []
  | some (current, rest) =>
    match limit with
    | 0 => .error .exhausted
    | limit + 1 => do
      let type ← graph.type current
      let found ← graph.walk limit (current :: seen) (rest ++ type.supertypes)
      .ok (current :: found)

/-- The class itself, its superclasses and every interface they reach, nearest
first.  A walk meets each class once, so their number bounds it. -/
def supertypes (graph : ClassGraph) (id : ClassId) : Except Fault (List ClassId) :=
  graph.walk (graph.ids.length + 1) [] [id]

/-- Assignability, following at most `limit` components of arrays. -/
def assignableWithin (graph : ClassGraph) :
    Nat → (source target : ClassId) → Except Fault Bool
  | limit, source, target =>
    if source = target then .ok true
    else do
      let sourceType ← graph.type source
      let targetType ← graph.type target
      if targetType.isPrimitive || sourceType.isPrimitive then .ok false
      else if targetType.isArray then
        match sourceType.isArray, sourceType.component, targetType.component with
        | true, some sourceComponent, some targetComponent =>
          if sourceComponent = targetComponent then .ok true
          else do
            let sourceElement ← graph.type sourceComponent
            let targetElement ← graph.type targetComponent
            if sourceElement.isPrimitive || targetElement.isPrimitive then .ok false
            else
              match limit with
              | 0 => .error .exhausted
              | limit + 1 => graph.assignableWithin limit sourceComponent targetComponent
        | _, _, _ => .ok false
      else if targetType.isRoot target then .ok true
      else do
        let found ← graph.supertypes source
        .ok (found.contains target)

/-- Whether every instance of the source is also an instance of the target.
The components below an array are fewer than the classes. -/
def assignable (graph : ClassGraph) (source target : ClassId) : Except Fault Bool :=
  graph.assignableWithin graph.ids.length source target

end ClassGraph
end ClassRuntime

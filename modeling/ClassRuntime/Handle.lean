import ClassRuntime.Text.Record

namespace ClassRuntime

/-!
# Handles

Loaders and threads are numbered, and a class is known by the loader that
defined it and its place among the classes of that loader.  A handle carries
nothing else: a number that one runtime has given out may be unknown to
another, or stand for something else there.

The numbers are unbounded here.  A handle proper has thirty-two bits for the
number of a loader and for the place of a class, and sixty-four for the number
of a thread; beyond these it would wrap around.  So the runtimes that are
described are those whose numbers stay within the range of their handles, and
the counts that they keep within the range of their counters.
-/

/-- The number of a loader within its runtime. -/
structure LoaderId where
  index : Nat
  deriving DecidableEq, Inhabited

/-- The loader that every runtime starts with. -/
def LoaderId.bootstrap : LoaderId := ⟨0⟩

/-- The loader that defined a class, and the place of the class there. -/
structure ClassId where
  loader : LoaderId
  index : Nat
  deriving DecidableEq, Inhabited

/-- The number of a thread within its runtime. -/
structure ThreadId where
  number : Nat
  deriving DecidableEq, Inhabited

/-- The handle in words. -/
def LoaderId.text (id : LoaderId) : String :=
  Text.wrapped "LoaderId" (toString id.index)

/-- The handle in words. -/
def ClassId.text (id : ClassId) : String :=
  Text.record "ClassId" [("loader", id.loader.text), ("index", toString id.index)]

end ClassRuntime

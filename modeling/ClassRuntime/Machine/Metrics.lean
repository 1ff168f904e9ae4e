namespace ClassRuntime

/-!
# Metrics

Counters of what a runtime has done.  They only grow, and nothing that the
runtime does depends on them.
-/

/-- What a runtime counts. -/
structure Metrics where
  /-- Calls of native handlers, repetitions included. -/
  nativeDispatches : Nat
  /-- Calls that were put off until a class is initialized. -/
  deferredDependencies : Nat
  /-- Static initializers that were entered. -/
  staticInitializersRun : Nat
  /-- Assignability questions answered from the cache. -/
  cacheHits : Nat
  /-- Assignability questions not found in the cache. -/
  cacheMisses : Nat
  /-- Class mirrors made. -/
  mirrorsCreated : Nat
  /-- Loader handles made. -/
  handlesCreated : Nat
  /-- Constant pools made. -/
  poolsCreated : Nat
  deriving DecidableEq, Inhabited

namespace Metrics

/-- The counters at the start. -/
def zero : Metrics := ⟨0, 0, 0, 0, 0, 0, 0, 0⟩

/-- Count a call of a native handler. -/
def countDispatch (metrics : Metrics) : Metrics :=
  { metrics with nativeDispatches := metrics.nativeDispatches + 1 }

/-- Count a call that was put off. -/
def countDeferral (metrics : Metrics) : Metrics :=
  { metrics with deferredDependencies := metrics.deferredDependencies + 1 }

/-- Count a static initializer. -/
def countInitializer (metrics : Metrics) : Metrics :=
  { metrics with staticInitializersRun := metrics.staticInitializersRun + 1 }

/-- Count a question answered from the cache. -/
def countHit (metrics : Metrics) : Metrics :=
  { metrics with cacheHits := metrics.cacheHits + 1 }

/-- Count a question not found in the cache. -/
def countMiss (metrics : Metrics) : Metrics :=
  { metrics with cacheMisses := metrics.cacheMisses + 1 }

/-- Count a class mirror. -/
def countMirror (metrics : Metrics) : Metrics :=
  { metrics with mirrorsCreated := metrics.mirrorsCreated + 1 }

/-- Count a loader handle. -/
def countHandle (metrics : Metrics) : Metrics :=
  { metrics with handlesCreated := metrics.handlesCreated + 1 }

/-- Count a constant pool. -/
def countPool (metrics : Metrics) : Metrics :=
  { metrics with poolsCreated := metrics.poolsCreated + 1 }

end Metrics
end ClassRuntime

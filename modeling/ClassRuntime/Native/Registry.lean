import ClassRuntime.MethodDescriptor.Parser
import ClassRuntime.Table

namespace ClassRuntime

/-!
# Registries of natives

A registry maps methods to the handlers that carry them out.  A method is
registered only if its descriptor can be read, and a later handler takes the
place of an earlier one.
-/

/-- A handler with the descriptor of the method that it carries out. -/
structure RegistryEntry (η : Type) where
  handler : η
  descriptor : MethodDescriptor
  deriving Inhabited

/-- Handlers of type `η` by method. -/
structure Registry (η : Type) where
  entries : Table MethodKey (RegistryEntry η)
  deriving Inhabited

namespace Registry

variable {η : Type}

/-- The registry without natives. -/
def empty : Registry η := ⟨.empty⟩

/-- The registry with every handler changed. -/
def map {θ : Type} (change : η → θ) (registry : Registry η) : Registry θ :=
  ⟨registry.entries.map fun entry => ⟨change entry.handler, entry.descriptor⟩⟩

/-- The number of methods with a handler. -/
def size (registry : Registry η) : Nat := registry.entries.size

/-- Register a handler.  The answer holds the handler it displaces, if any. -/
def register (registry : Registry η) (key : MethodKey) (handler : η) :
    Except RuntimeError (Option η × Registry η) := do
  let descriptor ← MethodDescriptor.parse key.descriptor
  pure ((registry.entries.find? key).map (·.handler),
    ⟨registry.entries.insert key ⟨handler, descriptor⟩⟩)

/-- The registry after an attempt to register a handler. -/
def registered (registry : Registry η) (key : MethodKey) (handler : η) : Registry η :=
  match registry.register key handler with
  | .ok (_, extended) => extended
  | .error _ => registry

/-- Register handlers one after another. -/
def ofList (natives : List (MethodKey × η)) : Registry η :=
  natives.foldl (fun registry (key, handler) => registry.registered key handler) empty

/-- The handler of a method. -/
def lookup (registry : Registry η) (key : MethodKey) :
    Except RuntimeError (RegistryEntry η) :=
  match registry.entries.find? key with
  | some entry => .ok entry
  | none => .error (.unsatisfiedLink key)

end Registry
end ClassRuntime

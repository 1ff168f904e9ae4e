import ClassRuntime.Proofs.MethodDescriptor.RoundTrip
import ClassRuntime.Proofs.Native.Conformance
import ClassRuntime.Proofs.Table

namespace ClassRuntime
namespace Registry

/-!
# What a registry holds

A registry is a partial map from methods to handlers.  A registration whose
descriptor can be read sets one value of the map and tells the value that it
displaces; every other one fails and changes nothing.  After any sequence of
registrations the value of a method is therefore the handler that has been
registered for it last.  Two methods are the same only if their owners, names and
descriptors are, whether or not they are displayed alike.
-/

variable {η : Type}

/-! ## Consistent registries -/

/-- The handler of a method, if it has one. -/
def handler? (registry : Registry η) (key : MethodKey) : Option η :=
  (registry.lookup key).toOption.map RegistryEntry.handler

/-- No method is listed twice, and next to its handler a method has the
descriptor that its own text stands for. -/
structure Consistent (registry : Registry η) : Prop where
  distinct : registry.entries.keys.Nodup
  read : ∀ key entry, registry.lookup key = .ok entry →
    MethodDescriptor.parse key.descriptor = .ok entry.descriptor

theorem consistent_empty : (empty : Registry η).Consistent where
  distinct := List.nodup_nil
  read _ _ impossible := by cases impossible

section Registered

variable {registry : Registry η} {key : MethodKey} {handler : η}

theorem register_of_ok {descriptor : MethodDescriptor}
    (parsed : MethodDescriptor.parse key.descriptor = .ok descriptor) :
    registry.register key handler =
      .ok (registry.handler? key, registry.registered key handler) := by
  have displaced : (registry.entries.find? key).map (·.handler) = registry.handler? key := by
    rw [handler?, lookup]
    cases registry.entries.find? key <;> rfl
  rw [registered, register, parsed, ← displaced]
  rfl

theorem register_of_error {cause : RuntimeError}
    (unread : MethodDescriptor.parse key.descriptor = .error cause) :
    registry.register key handler = .error cause ∧
      registry.registered key handler = registry := by
  have failed : registry.register key handler = .error cause := by
    rw [register, unread]
    rfl
  exact ⟨failed, by rw [registered, failed]⟩

theorem consistent_registered (consistent : registry.Consistent) (key : MethodKey)
    (handler : η) : (registry.registered key handler).Consistent where
  distinct := by
    rw [registered, register]
    cases MethodDescriptor.parse key.descriptor with
    | error cause => exact consistent.distinct
    | ok descriptor => exact Table.nodup_keys_insert consistent.distinct _ _
  read sought entry found := by
    rw [lookup_registered] at found
    split at found
    next descriptor parsed =>
      split at found
      next same =>
        cases found
        exact same ▸ parsed
      next => exact consistent.read sought entry found
    next => exact consistent.read sought entry found

end Registered

theorem consistent_extended {registry : Registry η} (consistent : registry.Consistent)
    (calls : List (MethodKey × η)) : (registry.extended calls).Consistent := by
  induction calls generalizing registry with
  | nil => exact consistent
  | cons call rest inductiveStep =>
    exact inductiveStep (consistent_registered consistent call.1 call.2)

/-! ## The handler that counts -/

/-- The handler in the last of the calls that are for exactly this method and
that give a descriptor that can be read. -/
def lastHandler? (calls : List (MethodKey × η)) (key : MethodKey) : Option η :=
  (calls.findRev? fun call =>
    call.1 = key && (MethodDescriptor.parse call.1.descriptor).isOk).map Prod.snd

theorem lastHandler?_cons (call : MethodKey × η) (rest : List (MethodKey × η))
    (key : MethodKey) : lastHandler? (call :: rest) key =
      (lastHandler? rest key).or (lastHandler? [call] key) := by
  unfold lastHandler?
  rw [List.findRev?]
  cases List.findRev? _ rest <;> rfl

theorem handler?_registered (registry : Registry η) (call : MethodKey × η) (key : MethodKey) :
    (registry.registered call.1 call.2).handler? key =
      (lastHandler? [call] key).or (registry.handler? key) := by
  rw [handler?, lookup_registered, lastHandler?, List.findRev?, List.findRev?]
  by_cases same : call.1 = key
  · cases parsed : MethodDescriptor.parse call.1.descriptor with
    | error cause => simp [Except.isOk, Except.toBool, handler?]
    | ok descriptor => simp [same, Except.isOk, Except.toBool, Except.toOption]
  · cases MethodDescriptor.parse call.1.descriptor <;> simp [same, handler?]

theorem handler?_extended (registry : Registry η) (calls : List (MethodKey × η))
    (key : MethodKey) : (registry.extended calls).handler? key =
      (lastHandler? calls key).or (registry.handler? key) := by
  induction calls generalizing registry with
  | nil => rfl
  | cons call rest inductiveStep =>
    rw [lastHandler?_cons, Option.or_assoc, ← handler?_registered]
    exact inductiveStep (registry.registered call.1 call.2)

/-! ## Registries as maps -/

/-- The registry is the partial map, to those who look methods up, who register
further handlers and who ask for its size. -/
structure Represents (registry : Registry η) (value? : MethodKey → Option η) : Prop where
  held : ∀ key handler, value? key = some handler →
    ∃ descriptor, registry.lookup key = .ok ⟨handler, descriptor⟩ ∧
      MethodDescriptor.parse key.descriptor = .ok descriptor ∧ descriptor.text = key.descriptor
  missing : ∀ key, value? key = none → registry.lookup key = .error (.unsatisfiedLink key)
  accepts : ∀ key handler descriptor, MethodDescriptor.parse key.descriptor = .ok descriptor →
    registry.register key handler = .ok (value? key, registry.registered key handler)
  refuses : ∀ key handler cause, MethodDescriptor.parse key.descriptor = .error cause →
    registry.register key handler = .error cause ∧ registry.registered key handler = registry
  counts : ∃ present : List MethodKey, present.Nodup ∧
    (∀ key, key ∈ present ↔ (value? key).isSome) ∧ registry.size = present.length

theorem Consistent.represents {registry : Registry η} (consistent : registry.Consistent) :
    registry.Represents registry.handler? where
  held key handler known := by
    unfold handler? at known
    cases found : registry.lookup key with
    | error cause =>
      rw [found] at known
      cases known
    | ok entry =>
      rw [found] at known
      cases known
      have parsed := consistent.read key entry found
      exact ⟨entry.descriptor, rfl, parsed, (MethodDescriptor.parse_eq_ok_iff.1 parsed).1⟩
  missing key unknown := by
    unfold handler? lookup at unknown
    rw [lookup]
    cases found : registry.entries.find? key with
    | none => rfl
    | some entry =>
      rw [found] at unknown
      cases unknown
  accepts _ _ _ := register_of_ok
  refuses _ _ _ := register_of_error
  counts := by
    refine ⟨registry.entries.keys, consistent.distinct, fun key => ?_,
      (Table.length_keys _).symm⟩
    rw [Table.mem_keys_iff, handler?, lookup]
    cases registry.entries.find? key <;> rfl

/-! ## The built-in natives -/

section Builtins

variable {ι : Type}

/-- The built-in native for a method. -/
def builtin? (key : MethodKey) : Option (Native ι) :=
  (Native.builtins.find? fun entry : MethodKey × Native ι => entry.1 = key).map Prod.snd

theorem handler?_builtinRegistry (key : MethodKey) :
    (Native.builtinRegistry : Registry (Native ι)).handler? key = builtin? key := by
  unfold builtin?
  cases found : (Native.builtins : List (MethodKey × Native ι)).find? _ with
  | none =>
    have other : key ∉ (Native.builtins : List (MethodKey × Native ι)).map Prod.fst := by
      intro listed
      rcases List.mem_map.1 listed with ⟨entry, member, rfl⟩
      exact List.find?_eq_none.1 found entry member (decide_eq_true rfl)
    rw [handler?, Native.builtinRegistry, ofList_eq, lookup_extended_of_notMem other]
    rfl
  | some entry =>
    have listed := List.mem_of_find?_eq_some found
    have same := List.find?_some found
    rw [decide_eq_true_eq] at same
    rcases Native.holds_builtinRegistry entry.1 entry.2 listed with ⟨descriptor, _, held⟩
    rw [handler?, ← same, held]
    rfl

/-- After any calls a registry maps each method to the handler that has been
registered for it last, or to its built-in native if there has been none and
the registry has been made with the built-in ones. -/
theorem represents_registrations (calls : List (MethodKey × Native ι)) :
    (empty.extended calls).Represents (lastHandler? calls) ∧
      (Native.builtinRegistry.extended calls).Represents
        (fun key => (lastHandler? calls key).or (builtin? key)) := by
  constructor
  · have same : lastHandler? calls = (empty.extended calls).handler? := by
      funext key
      rw [handler?_extended]
      exact (Option.or_none).symm
    rw [same]
    exact (consistent_extended consistent_empty calls).represents
  · have same : (fun key => (lastHandler? calls key).or (builtin? key)) =
        (Native.builtinRegistry.extended calls).handler? := by
      funext key
      rw [handler?_extended, handler?_builtinRegistry]
    rw [same]
    have builtins := consistent_extended consistent_empty (Native.builtins (ι := ι))
    exact (consistent_extended builtins calls).represents

end Builtins

end Registry
end ClassRuntime

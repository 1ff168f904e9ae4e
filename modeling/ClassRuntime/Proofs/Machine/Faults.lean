import ClassRuntime.Proofs.Machine.Requests

namespace ClassRuntime

/-!
# How requests fail

Four of the errors blame a native for not keeping to the protocol of calls.
They are raised by calls and by nothing else: a request to a machine fails with
another error, or with a fault that is no error of the runtime at all.
-/

/-- The errors that blame a native. -/
def RuntimeError.isBreach : RuntimeError → Bool
  | .resultMismatch .. => true
  | .resultTypeMismatch .. => true
  | .deferredWithoutRewind _ => true
  | .initializationStalled .. => true
  | _ => false

/-- A fault that does not blame a native. -/
def Fault.Fair (fault : Fault) : Prop :=
  ∀ cause, fault = .error cause → cause.isBreach = false

namespace Fault

theorem fair_error {cause : RuntimeError} (other : cause.isBreach = false) :
    (Fault.error cause).Fair := by
  rintro _ ⟨⟩
  exact other

theorem fair_danglingLoader (id : LoaderId) : (danglingLoader id).Fair := by
  rintro _ ⟨⟩

theorem fair_danglingClass (id : ClassId) : (danglingClass id).Fair := by
  rintro _ ⟨⟩

theorem fair_blocked (id : ClassId) : (blocked id).Fair := by
  rintro _ ⟨⟩

theorem fair_exhausted : exhausted.Fair := by
  rintro _ ⟨⟩

end Fault

/-- A computation that fails with fair faults alone. -/
def FailsFairly {α : Type} (result : Except Fault α) : Prop :=
  ∀ fault, result = .error fault → fault.Fair

namespace FailsFairly

variable {α β : Type}

theorem ok (value : α) : FailsFairly (.ok value) := by
  rintro _ ⟨⟩

theorem error {fault : Fault} (fair : fault.Fair) :
    FailsFairly (.error fault : Except Fault α) := by
  rintro _ ⟨⟩
  exact fair

theorem bind {result : Except Fault α} {next : α → Except Fault β} (first : FailsFairly result)
    (rest : ∀ value, FailsFairly (next value)) : FailsFairly (result >>= next) := by
  cases result with
  | error fault => exact .error (first fault rfl)
  | ok value => exact rest value

theorem map {result : Except Fault α} (change : α → β) (inner : FailsFairly result) :
    FailsFairly (result.map change) := by
  cases result with
  | error fault => exact .error (inner fault rfl)
  | ok value => exact .ok _

end FailsFairly

/-! ## Looking things up -/

namespace ClassGraph

variable {graph : ClassGraph}

theorem fair_walk (types : ∀ id, FailsFairly (graph.type id)) (limit : Nat)
    (seen queue : List ClassId) : FailsFairly (graph.walk limit seen queue) := by
  fun_induction graph.walk limit seen queue with
  | case1 => exact .ok _
  | case2 => exact .error Fault.fair_exhausted
  | case3 seen queue current rest taken limit inductiveStep =>
    exact (types current).bind fun type => (inductiveStep type).bind fun found => .ok _

theorem fair_assignableWithin (types : ∀ id, FailsFairly (graph.type id)) (limit : Nat)
    (source target : ClassId) : FailsFairly (graph.assignableWithin limit source target) := by
  unfold assignableWithin
  split
  · exact .ok _
  refine (types source).bind fun sourceType => (types target).bind fun targetType => ?_
  split
  · exact .ok _
  split
  · split
    next sourceComponent targetComponent _ _ _ =>
      split
      · exact .ok _
      refine (types sourceComponent).bind fun sourceElement =>
        (types targetComponent).bind fun targetElement => ?_
      split
      · exact .ok _
      · cases limit with
        | zero => exact .error Fault.fair_exhausted
        | succ limit => exact fair_assignableWithin types limit sourceComponent targetComponent
    next => exact .ok _
  · split
    · exact .ok _
    · exact (fair_walk types _ _ _).bind fun found => .ok _

end ClassGraph

namespace Area

variable {ι : Type}

theorem fair_loader (area : Area ι) (id : LoaderId) : FailsFairly (area.loader id) := by
  unfold loader
  split
  · exact .ok _
  · exact .error (Fault.fair_danglingLoader id)

theorem fair_loadedClass (area : Area ι) (id : ClassId) : FailsFairly (area.loadedClass id) := by
  refine (area.fair_loader id.loader).bind fun loader => ?_
  split
  · exact .ok _
  · exact .error (Fault.fair_danglingClass id)

theorem fair_assignable (area : Area ι) (source target : ClassId) :
    FailsFairly (area.graph.assignable source target) :=
  ClassGraph.fair_assignableWithin (fun id => (area.fair_loadedClass id).map _) _ source target

theorem fair_getLoader (id : LoaderId) :
    (getLoader id : Action (Area ι) (Loader ι)).Throws Fault.Fair :=
  .bind .get fun area => .ofExcept (area.fair_loader id)

theorem fair_getClass (id : ClassId) :
    (getClass id : Action (Area ι) (LoadedClass ι)).Throws Fault.Fair :=
  .bind .get fun area => .ofExcept (area.fair_loadedClass id)

/-! ## Requests -/

theorem loading_fair :
    Loading fun α (action : Action (Area ι) α) => action.Throws Fault.Fair where
  toCompositional := Action.compositional_throws Fault.Fair
  getClass := fair_getClass
  incompatible _ _ := .throw (Fault.fair_error rfl)
  exhausted := .throw Fault.fair_exhausted
  notFound _ := .throw (Fault.fair_error rfl)
  circular _ := .throw (Fault.fair_error rfl)
  getLoader := fair_getLoader
  addClass id _ _ := .bind (fair_getLoader id) fun _ => .bind (.modify _) fun _ => .pure _
  remember _ _ _ := .modify _
  beginLinking _ _ := .modify _
  endLinking _ _ := .modify _

end Area

namespace Machine

variable {ι : Type}

theorem requesting_fair :
    Requesting fun α (action : Action (Machine ι) α) => action.Throws Fault.Fair where
  toCompositional := Action.compositional_throws Fault.Fair
  attach := .modifyGet _
  addLoader _ _ _ := .within (.modifyGet _)
  addDefinition id _ := .within (.bind (Area.fair_getLoader id) fun _ => .modify _)
  load id name := .within (Area.loading_fair.load id name)
  resolve id name := .within (Area.loading_fair.resolve id name)
  getLoader id := .within (Area.fair_getLoader id)
  getClass id := .within (Area.fair_getClass id)
  makeObject _ := .modifyGet _
  makeMirror _ _ := .bind (.modify _) fun _ => .bind (.modifyGet _) fun _ =>
    .bind (.modify _) fun _ => .pure _
  makePool _ _ := .bind (.modify _) fun _ => .bind (.modifyGet _) fun _ =>
    .bind (.modify _) fun _ => .pure _
  makeHandle _ _ := .bind (.modify _) fun _ => .bind (.modifyGet _) fun _ =>
    .bind (.modify _) fun _ => .pure _
  isAssignable := isAssignable_of_parts (Action.compositional_throws Fault.Fair) (.modify _)
    (.modify _) (fun area source target => .ofExcept (area.fair_assignable source target))
    fun _ _ => .modify _

end Machine
end ClassRuntime

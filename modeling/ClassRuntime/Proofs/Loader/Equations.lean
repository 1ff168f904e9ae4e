import ClassRuntime.Proofs.Action
import ClassRuntime.Proofs.Loader.Growth

namespace ClassRuntime
namespace Area

/-!
# The ways a load can go

Every function that takes part in a load decides by what it finds at the asked
loader.  There is one equation for each way, so that later arguments follow
the ways and never the code.
-/

variable {ι : Type} {area : Area ι} {id : LoaderId} {loader : Loader ι} {name : ClassName}
  {nested : Load ι}

/-- A class that was found is what the loader answers the name with from now
on. -/
def settle (id : LoaderId) (name : ClassName) :
    Except Fault ClassId × Area ι → Except Fault ClassId × Area ι
  | (.ok found, after) => (.ok found, after.updateLoader id fun loader => loader.answer name found)
  | (.error fault, after) => (.error fault, after)

theorem outcome_settle (action : Action (Area ι) ClassId) :
    (do let found ← action; remember id name found; pure found).outcome area =
      settle id name (action.outcome area) := by
  rw [Action.outcome_bind]
  rcases action.outcome area with ⟨_ | found, after⟩ <;> rfl

/-! ## Defining -/

theorem outcome_define_known (known : area.loader? id = some loader) {found : ClassId}
    (answered : area.lookup? id name = some found) :
    (define nested id name).outcome area = (.ok found, area) := by
  rw [lookup?_eq known] at answered
  simp only [define, Action.outcome_bind, outcome_getLoader, loader_eq_ok known, answered,
    Action.outcome_pure]

theorem outcome_define_undefined (known : area.loader? id = some loader)
    (unanswered : area.lookup? id name = none) (undefined : area.definition? id name = none) :
    (define nested id name).outcome area = (.error (.error (.classNotFound name)), area) := by
  rw [lookup?_eq known] at unanswered
  rw [definition?_eq known] at undefined
  simp only [define, Action.outcome_bind, outcome_getLoader, loader_eq_ok known, unanswered,
    undefined, Action.outcome_fail]

theorem outcome_define_circular (known : area.loader? id = some loader)
    (unanswered : area.lookup? id name = none) {definition : ClassDefinition ι}
    (defined : area.definition? id name = some definition) (marked : name ∈ area.linking id) :
    (define nested id name).outcome area = (.error (.error (.classCircularity name)), area) := by
  rw [lookup?_eq known] at unanswered
  rw [definition?_eq known] at defined
  rw [linking_eq known] at marked
  simp only [define, Action.outcome_bind, outcome_getLoader, loader_eq_ok known, unanswered,
    defined, if_pos marked, Action.outcome_fail]

section Linking

variable {definition : ClassDefinition ι} {after : Area ι}

theorem outcome_define_unlinked (known : area.loader? id = some loader)
    (unanswered : area.lookup? id name = none)
    (defined : area.definition? id name = some definition) (unmarked : name ∉ area.linking id)
    {fault : Fault}
    (linked : (link (nested id) loader.source definition).outcome
      (area.updateLoader id fun loader => loader.mark name) = (.error fault, after)) :
    (define nested id name).outcome area =
      (.error fault, after.updateLoader id fun loader => loader.unmark name) := by
  rw [lookup?_eq known] at unanswered
  rw [definition?_eq known] at defined
  rw [linking_eq known] at unmarked
  simp only [define, Action.outcome_bind, outcome_getLoader, loader_eq_ok known, unanswered,
    defined, if_neg unmarked, outcome_beginLinking, Action.outcome_attempt, linked,
    outcome_endLinking, Action.outcome_ofExcept]

theorem outcome_define_linked (known : area.loader? id = some loader)
    (unanswered : area.lookup? id name = none)
    (defined : area.definition? id name = some definition) (unmarked : name ∉ area.linking id)
    {type : TypeDescriptor} {later : Loader ι}
    (linked : (link (nested id) loader.source definition).outcome
      (area.updateLoader id fun loader => loader.mark name) = (.ok type, after))
    (kept : (after.updateLoader id fun loader => loader.unmark name).loader? id = some later) :
    (define nested id name).outcome area =
      (.ok ⟨id, later.classes.size⟩,
        placed (after.updateLoader id fun loader => loader.unmark name) id later name
          (.fresh type definition.initializer)) := by
  rw [lookup?_eq known] at unanswered
  rw [definition?_eq known] at defined
  rw [linking_eq known] at unmarked
  simp only [define, Action.outcome_bind, outcome_getLoader, loader_eq_ok known, unanswered,
    defined, if_neg unmarked, outcome_beginLinking, Action.outcome_attempt, linked,
    outcome_endLinking, Action.outcome_ofExcept, outcome_addClass kept, outcome_remember,
    Action.outcome_pure, placed]

end Linking

/-! ## Asking parents first -/

theorem outcome_delegate_known {bound : Nat} (known : area.loader? id = some loader)
    {found : ClassId} (answered : area.lookup? id name = some found) :
    (delegate nested (bound + 1) id name).outcome area = (.ok found, area) := by
  rw [lookup?_eq known] at answered
  simp only [delegate, Action.outcome_bind, outcome_getLoader, loader_eq_ok known, answered,
    Action.outcome_pure]

theorem outcome_delegate_top {bound : Nat} (known : area.loader? id = some loader)
    (unanswered : area.lookup? id name = none) (top : area.parent? id = none) :
    (delegate nested (bound + 1) id name).outcome area =
      settle id name ((define nested id name).outcome area) := by
  rw [lookup?_eq known] at unanswered
  rw [parent?_eq known] at top
  rw [delegate, Action.outcome_bind, outcome_getLoader, loader_eq_ok known]
  simp only [unanswered, top]
  exact outcome_settle _

theorem outcome_delegate_parent {bound : Nat} (known : area.loader? id = some loader)
    (unanswered : area.lookup? id name = none) {parent : LoaderId}
    (below : area.parent? id = some parent) :
    (delegate nested (bound + 1) id name).outcome area =
      settle id name
        ((orDefine nested id name ((delegate nested bound parent name).outcome area).1).outcome
          ((delegate nested bound parent name).outcome area).2) := by
  rw [lookup?_eq known] at unanswered
  rw [parent?_eq known] at below
  rw [delegate, Action.outcome_bind, outcome_getLoader, loader_eq_ok known]
  simp only [unanswered, below]
  rw [Action.outcome_bind, Action.outcome_attempt]
  exact outcome_settle _

/-! ## Loading any class -/

/-- The array class of a component, once the basic classes are there. -/
def keepArray (name : ClassName) (component : ClassId) (type : TypeDescriptor) :
    Action (Area ι) ClassId := do
  let home ← getLoader component.loader
  match home.byName.find? name with
  | some found => pure found
  | none => do
    let found ← addClass component.loader (.fresh type none)
    remember component.loader name found
    pure found

theorem obtainArray_eq (nested : Load ι) (name : ClassName) (component : ClassId) :
    obtainArray nested name component = (do
      let element ← getClass component
      let root ← loadOrdinary nested .bootstrap .object
      let cloneable ← loadOrdinary nested .bootstrap .cloneable
      let serializable ← loadOrdinary nested .bootstrap .serializable
      keepArray name component
        (arrayType name component element.toTypeDescriptor root [cloneable, serializable])) :=
  rfl

theorem outcome_keepArray_known {component : ClassId} {type : TypeDescriptor}
    (known : area.loader? component.loader = some loader) {found : ClassId}
    (answered : area.lookup? component.loader name = some found) :
    (keepArray name component type).outcome area = (.ok found, area) := by
  rw [lookup?_eq known] at answered
  simp only [keepArray, Action.outcome_bind, outcome_getLoader, loader_eq_ok known, answered,
    Action.outcome_pure]

theorem outcome_keepArray_new {component : ClassId} {type : TypeDescriptor}
    (known : area.loader? component.loader = some loader)
    (unanswered : area.lookup? component.loader name = none) :
    (keepArray name component type).outcome area =
      (.ok ⟨component.loader, loader.classes.size⟩,
        placed area component.loader loader name (.fresh type none)) := by
  rw [lookup?_eq known] at unanswered
  simp only [keepArray, Action.outcome_bind, outcome_getLoader, loader_eq_ok known, unanswered,
    outcome_addClass known, outcome_remember, Action.outcome_pure, placed]

theorem outcome_loadWith_ordinary (named : ¬ name.isArray) :
    (loadWith nested id name).outcome area = (loadOrdinary nested id name).outcome area := by
  rw [loadWith, if_neg named]

theorem outcome_loadWith_known (named : name.isArray) (known : area.loader? id = some loader)
    {found : ClassId} (answered : area.lookup? id name = some found) :
    (loadWith nested id name).outcome area = (.ok found, area) := by
  rw [lookup?_eq known] at answered
  rw [loadWith, if_pos named]
  simp only [Action.outcome_bind, outcome_getLoader, loader_eq_ok known, answered,
    Action.outcome_pure]

theorem outcome_loadWith_malformed (named : name.isArray)
    (known : area.loader? id = some loader) (unanswered : area.lookup? id name = none)
    (malformed : name.component? = none) :
    (loadWith nested id name).outcome area = (.error (.error (.classNotFound name)), area) := by
  rw [lookup?_eq known] at unanswered
  rw [loadWith, if_pos named]
  simp only [Action.outcome_bind, outcome_getLoader, loader_eq_ok known, unanswered]
  split
  next => rw [Action.outcome_fail]
  next component shape =>
    rw [malformed] at shape
    cases shape

theorem outcome_loadWith_array (named : name.isArray) (known : area.loader? id = some loader)
    (unanswered : area.lookup? id name = none) {componentName : ClassName}
    (wellFormed : name.component? = some componentName) :
    (loadWith nested id name).outcome area =
      settle id name
        ((loadWith nested id componentName >>= obtainArray nested name).outcome area) := by
  rw [lookup?_eq known] at unanswered
  rw [loadWith, if_pos named]
  simp only [Action.outcome_bind, outcome_getLoader, loader_eq_ok known, unanswered]
  split
  next shape =>
    rw [wellFormed] at shape
    cases shape
  next component shape =>
    rw [wellFormed] at shape
    cases shape
    simp only [Action.outcome_bind]
    rcases (loadWith nested id componentName).outcome area with ⟨fault | component, after⟩
    · rfl
    · rw [← outcome_settle, Action.outcome_bind]
      simp only [Action.outcome_bind]

end Area
end ClassRuntime

import ClassRuntime.Proofs.Action
import ClassRuntime.Proofs.Loader.Views

namespace ClassRuntime
namespace Area

/-!
# What a load is made of

The functions that take part in a load call each other, and in the end all of
them are made of a few elementary actions on loaders.  If these have a property
that passes from the parts of an action to the whole, then every load has it.
The functions are gone through here for all such properties at once, so that
each further property is a matter of the elementary actions.
-/

variable {ι : Type}

/-- A property of linking, which takes no more than to look at what has been
loaded. -/
structure Linking (property : Action.Property (Area ι)) : Prop
    extends Action.Compositional property where
  getClass : ∀ id, property (LoadedClass ι) (getClass id)
  incompatible : ∀ {α : Type} (name inherited : ClassName),
    property α (Action.fail (.incompatibleClassChange name inherited))

/-- A property of loads: what they are made of has it, and it passes on to the
whole. -/
structure Loading (property : Action.Property (Area ι)) : Prop extends Linking property where
  exhausted : ∀ {α : Type}, property α (throw .exhausted)
  notFound : ∀ {α : Type} (name : ClassName), property α (Action.fail (.classNotFound name))
  circular : ∀ {α : Type} (name : ClassName), property α (Action.fail (.classCircularity name))
  getLoader : ∀ id, property (Loader ι) (getLoader id)
  addClass : ∀ id type initializer, property ClassId (addClass id (.fresh type initializer))
  remember : ∀ id name found, property Unit (remember id name found)
  beginLinking : ∀ id name, property Unit (beginLinking id name)
  endLinking : ∀ id name, property Unit (endLinking id name)

/-! ## Linking -/

namespace Linking

variable {property : Action.Property (Area ι)} {load : ClassName → Action (Area ι) ClassId}
  {definition : ClassDefinition ι}

theorem linkSuperclass (linking : Linking property) (loads : ∀ name, property ClassId (load name)) :
    property (Option ClassId) (linkSuperclass load definition) := by
  unfold Area.linkSuperclass
  split
  · exact linking.pure _
  next name _ =>
    refine linking.bind (loads name) fun id => linking.bind (linking.getClass id)
      fun inherited => ?_
    split
    · exact linking.pure _
    · exact linking.incompatible _ _

theorem linkInterfaces (linking : Linking property) (loads : ∀ name, property ClassId (load name))
    (names : List ClassName) :
    property (List ClassId) (linkInterfaces load definition names) := by
  induction names with
  | nil => exact linking.pure _
  | cons name rest inductiveStep =>
    unfold Area.linkInterfaces
    refine linking.bind (loads name) fun id => linking.bind (linking.getClass id)
      fun inherited => ?_
    split
    · exact linking.bind inductiveStep fun _ => linking.pure _
    · exact linking.incompatible _ _

theorem link (linking : Linking property) (loads : ∀ name, property ClassId (load name))
    (source : Source) (definition : ClassDefinition ι) :
    property TypeDescriptor (link load source definition) := by
  unfold Area.link
  apply linking.bind (linking.linkSuperclass loads)
  intro superclass
  exact linking.bind (linking.linkInterfaces loads definition.interfaces) fun interfaces =>
    linking.pure _

end Linking

/-! ## Loading -/

namespace Loading

variable {property : Action.Property (Area ι)} {nested : Load ι}

theorem define (loading : Loading property) (loads : ∀ id name, property ClassId (nested id name))
    (id : LoaderId) (name : ClassName) : property ClassId (define nested id name) := by
  unfold Area.define
  apply loading.bind (loading.getLoader id)
  intro loader
  split
  · exact loading.pure _
  · split
    · exact loading.notFound name
    · split
      · exact loading.circular name
      · refine loading.bind (loading.beginLinking id name) fun _ =>
          loading.recover (loading.link (loads id) loader.source _) fun linked raises =>
          loading.bind (loading.endLinking id name) fun _ => ?_
        have made : property TypeDescriptor (Action.ofExcept linked) := by
          cases linked with
          | error fault => exact raises fault rfl
          | ok type => exact loading.pure type
        exact loading.bind made fun type => loading.bind (loading.addClass id type _)
          fun found => loading.bind (loading.remember id name found) fun _ => loading.pure found

theorem orDefine (loading : Loading property)
    (loads : ∀ id name, property ClassId (nested id name)) (id : LoaderId) (name : ClassName)
    {answer : Except Fault ClassId}
    (raises : ∀ fault, answer = .error fault → property ClassId (throw fault)) :
    property ClassId (orDefine nested id name answer) := by
  unfold Area.orDefine
  split
  · exact loading.pure _
  · exact loading.define loads id name
  · exact raises _ rfl

theorem delegate (loading : Loading property)
    (loads : ∀ id name, property ClassId (nested id name)) (bound : Nat) (id : LoaderId)
    (name : ClassName) : property ClassId (delegate nested bound id name) := by
  induction bound generalizing id with
  | zero => exact loading.exhausted
  | succ bound inductiveStep =>
    unfold Area.delegate
    apply loading.bind (loading.getLoader id)
    intro loader
    split
    · exact loading.pure _
    · have kept (found : ClassId) :
          property ClassId (do Area.remember id name found; Pure.pure found) :=
        loading.bind (loading.remember id name found) fun _ => loading.pure found
      split
      · exact loading.bind (loading.define loads id name) kept
      next parent _ =>
        apply loading.recover (inductiveStep parent)
        intro answer raises
        exact loading.bind (loading.orDefine loads id name raises) kept

theorem loadOrdinary (loading : Loading property)
    (loads : ∀ id name, property ClassId (nested id name)) (id : LoaderId) (name : ClassName) :
    property ClassId (loadOrdinary nested id name) := by
  unfold Area.loadOrdinary
  exact loading.bind loading.get fun area => loading.delegate loads _ id name

theorem obtainArray (loading : Loading property)
    (loads : ∀ id name, property ClassId (nested id name)) (name : ClassName)
    (component : ClassId) : property ClassId (obtainArray nested name component) := by
  have boot := loading.loadOrdinary loads .bootstrap
  unfold Area.obtainArray
  refine loading.bind (loading.getClass component) fun element =>
    loading.bind (boot .object) fun root => loading.bind (boot .cloneable) fun cloneable =>
    loading.bind (boot .serializable) fun serializable =>
    loading.bind (loading.getLoader component.loader) fun home => ?_
  split
  · exact loading.pure _
  · exact loading.bind (loading.addClass component.loader _ none) fun found =>
      loading.bind (loading.remember component.loader name found) fun _ => loading.pure _

theorem loadWith (loading : Loading property)
    (loads : ∀ id name, property ClassId (nested id name)) (id : LoaderId) (name : ClassName) :
    property ClassId (loadWith nested id name) := by
  unfold Area.loadWith
  split
  · apply loading.bind (loading.getLoader id)
    intro loader
    split
    · exact loading.pure _
    · split
      next => exact loading.notFound name
      next componentName shape =>
        have inner := loadWith loading loads id componentName
        exact loading.bind inner fun component =>
          loading.bind (loading.obtainArray loads name component) fun found =>
          loading.bind (loading.remember id name found) fun _ => loading.pure _
  · exact loading.loadOrdinary loads id name
termination_by name.nesting
decreasing_by exact ClassName.nesting_component? (by assumption)

theorem loadNested (loading : Loading property) (depth : Nat) (id : LoaderId)
    (name : ClassName) : property ClassId (loadNested depth id name) := by
  induction depth generalizing id name with
  | zero => exact loading.exhausted
  | succ depth inductiveStep => exact loading.loadWith inductiveStep id name

/-- Every load has the property. -/
theorem load (loading : Loading property) (id : LoaderId) (name : ClassName) :
    property ClassId (load id name) := by
  unfold Area.load
  exact loading.bind loading.get fun area => loading.loadNested _ id name

theorem resolve (loading : Loading property) (id : LoaderId) (name : String) :
    property ClassId (resolve id name) := by
  unfold Area.resolve
  refine loading.bind loading.get fun area => ?_
  split
  · exact loading.pure _
  · exact loading.load id _

/-- A load is within a relation if the changes that it makes to single loaders are. -/
theorem within {relation : Area ι → Area ι → Prop} [IsPreorder (Area ι) relation]
    (push : ∀ {area : Area ι} {id loader}, area.loader? id = some loader → ∀ type initializer,
      relation area (area.updateLoader id fun loader => loader.push (.fresh type initializer)))
    (answer : ∀ (area : Area ι) id name found,
      relation area (area.updateLoader id fun loader => loader.answer name found))
    (mark : ∀ (area : Area ι) id name,
      relation area (area.updateLoader id fun loader => loader.mark name))
    (unmark : ∀ (area : Area ι) id name,
      relation area (area.updateLoader id fun loader => loader.unmark name)) :
    Loading fun α (action : Action (Area ι) α) => action.Within relation where
  toCompositional := Action.compositional_within relation
  getClass id area := by
    rw [outcome_getClass]
    exact refl_of relation area
  incompatible _ _ := .fail _
  exhausted := .throw _
  notFound _ := .fail _
  circular _ := .fail _
  getLoader id area := by
    rw [outcome_getLoader]
    exact refl_of relation area
  addClass id type initializer area := by
    cases known : area.loader? id with
    | none =>
      rw [Area.addClass, Action.outcome_bind, outcome_getLoader, loader_eq_error known]
      exact refl_of relation area
    | some loader =>
      rw [outcome_addClass known]
      exact push known type initializer
  remember id name found area := answer area id name found
  beginLinking id name area := mark area id name
  endLinking id name area := unmark area id name

end Loading
end Area
end ClassRuntime

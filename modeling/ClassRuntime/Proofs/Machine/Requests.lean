import ClassRuntime.Machine.Reflection
import ClassRuntime.Proofs.Loader.Quiet
import ClassRuntime.Proofs.Loader.Retention

namespace ClassRuntime

/-!
# Requests to a machine

Threads, natives and initializers use a machine through a fixed set of
requests.  Requests are made of a few elementary actions, so that a property
that these have and that passes from parts to the whole is one of all requests.

The first such property is that no request starts or ends the initialization of
a class: whatever the answer is, the machine changes quietly.  The second is that
no request takes back what has been loaded.
-/

/-- What a machine can be asked, with the type of the answer. -/
inductive Request (ι : Type) : Type → Type where
  | inspect : Request ι (Machine ι)
  | attach : Request ι ThreadId
  | addLoader (name : String) (source : Source) (parent : Option LoaderId) :
      Request ι LoaderId
  | addDefinition (id : LoaderId) (definition : ClassDefinition ι) : Request ι Unit
  | load (id : LoaderId) (name : ClassName) : Request ι ClassId
  | resolve (id : LoaderId) (name : String) : Request ι ClassId
  | isAssignable (source target : ClassId) : Request ι Bool
  | isInstance (target : Reference) (id : ClassId) : Request ι Bool
  | object (make : ObjectId → Object) : Request ι Object
  | text (content : String) : Request ι Object
  | array (component : ClassId) (elements : List Reference) : Request ι Object
  | mirror (id : ClassId) : Request ι Object
  | pool (id : ClassId) : Request ι Object
  | handle (id : LoaderId) : Request ι Object
  | classLoader (id : ClassId) : Request ι Reference
  | componentType (id : ClassId) : Request ι Reference
  | superclass (id : ClassId) : Request ι Reference
  | interfaces (id : ClassId) : Request ι Object
  | declaringClass (id : ClassId) : Request ι Reference
  | enclosingMethod (id : ClassId) : Request ι Reference
  | nameText (id : ClassId) : Request ι Object
  | modifiers (id : ClassId) : Request ι Int32

namespace Request

variable {ι α : Type}

/-- Carry out a request. -/
def perform : Request ι α → Action (Machine ι) α
  | .inspect => get
  | .attach => Machine.attach
  | .addLoader name source parent => Machine.onArea (Area.addLoader name source parent)
  | .addDefinition id definition => Machine.onArea (Area.addDefinition id definition)
  | .load id name => Machine.load id name
  | .resolve id name => Machine.resolve id name
  | .isAssignable source target => Machine.isAssignable source target
  | .isInstance target id => Machine.isInstance target id
  | .object make => Machine.makeObject make
  | .text content => Machine.makeText content
  | .array component elements => Machine.makeArray component elements
  | .mirror id => Machine.mirrorOf id
  | .pool id => Machine.poolOf id
  | .handle id => Machine.handleOf id
  | .classLoader id => Machine.classLoader id
  | .componentType id => Machine.componentType id
  | .superclass id => Machine.superclass id
  | .interfaces id => Machine.interfaces id
  | .declaringClass id => Machine.declaringClass id
  | .enclosingMethod id => Machine.enclosingMethod id
  | .nameText id => Machine.nameText id
  | .modifiers id => Machine.modifiers id

/-- The source and the target, if the request is a question of assignability. -/
def question? : Request ι α → Option (ClassId × ClassId)
  | .isAssignable source target => some (source, target)
  | .isInstance (some reference) id => some (reference.type, id)
  | _ => none

end Request

namespace Machine

variable {ι α : Type} {before middle after : Machine ι}

/-- A change that does not concern initialization. -/
structure Quiet (before after : Machine ι) : Prop where
  area : before.area.Quiet after.area
  counter : after.metrics.staticInitializersRun = before.metrics.staticInitializersRun

/-- The machine can be brought from one state into the other by requests. -/
def Reaches : Machine ι → Machine ι → Prop :=
  Relation.ReflTransGen fun before after =>
    ∃ (α : Type) (request : Request ι α), (request.perform.outcome before).2 = after

instance : IsPreorder (Machine ι) Quiet where
  refl machine := ⟨.refl machine.area, rfl⟩
  trans _ _ _ first second :=
    ⟨first.area.trans second.area, second.counter.trans first.counter⟩

/-! ## What requests are made of -/

/-- Make the mirror of a class and let the class have it. -/
def makeMirror (id type : ClassId) : Action (Machine ι) Object := do
  count Metrics.countMirror
  let mirror ← makeObject fun identity => .plain identity type (some (.mirror id))
  updateClass id fun loaded => { loaded with mirror := some mirror }
  pure mirror

/-- Make the constant pool of a class and let the class have it. -/
def makePool (id type : ClassId) : Action (Machine ι) Object := do
  count Metrics.countPool
  let pool ← makeObject fun identity => .plain identity type (some (.pool id))
  updateClass id fun loaded => { loaded with pool := some pool }
  pure pool

/-- Make the handle of a loader and let the loader have it. -/
def makeHandle (id : LoaderId) (type : ClassId) : Action (Machine ι) Object := do
  count Metrics.countHandle
  let handle ← makeObject fun identity => .plain identity type (some (.handle id))
  modify fun machine =>
    { machine with
      area := machine.area.updateLoader id fun loader => { loader with handle := some handle } }
  pure handle

/-- A property of requests that ask no question of assignability, as far as they do
not make the objects that stand for classes and loaders.  What makes these has the
property as a whole. -/
structure Handing (property : Action.Property (Machine ι)) : Prop
    extends Action.Compositional property where
  attach : property ThreadId attach
  addLoader : ∀ name source parent, property LoaderId (onArea (Area.addLoader name source parent))
  addDefinition : ∀ id definition, property Unit (onArea (Area.addDefinition id definition))
  load : ∀ id name, property ClassId (load id name)
  resolve : ∀ id name, property ClassId (resolve id name)
  getClass : ∀ id, property (LoadedClass ι) (getClass id)
  makeObject : ∀ make, property Object (makeObject make)
  mirrorOf : ∀ id, property Object (mirrorOf id)
  poolOf : ∀ id, property Object (poolOf id)
  handleOf : ∀ id, property Object (handleOf id)

/-- A property of requests that ask no question of assignability: what they are
made of has it, and it passes on to the whole. -/
structure Providing (property : Action.Property (Machine ι)) : Prop
    extends Action.Compositional property where
  attach : property ThreadId attach
  addLoader : ∀ name source parent, property LoaderId (onArea (Area.addLoader name source parent))
  addDefinition : ∀ id definition, property Unit (onArea (Area.addDefinition id definition))
  load : ∀ id name, property ClassId (load id name)
  resolve : ∀ id name, property ClassId (resolve id name)
  getLoader : ∀ id, property (Loader ι) (onArea (Area.getLoader id))
  getClass : ∀ id, property (LoadedClass ι) (getClass id)
  makeObject : ∀ make, property Object (makeObject make)
  makeMirror : ∀ id type, property Object (makeMirror id type)
  makePool : ∀ id type, property Object (makePool id type)
  makeHandle : ∀ id type, property Object (makeHandle id type)

/-- A property of all requests. -/
structure Requesting (property : Action.Property (Machine ι)) : Prop
    extends Providing property where
  isAssignable : ∀ source target, property Bool (isAssignable source target)

/-- A question of assignability is counted, and if it is new it is decided and the
answer is kept. -/
theorem isAssignable_of_parts {property : Action.Property (Machine ι)}
    (passes : Action.Compositional property) (hit : property Unit (count Metrics.countHit))
    (miss : property Unit (count Metrics.countMiss))
    (decide : ∀ (area : Area ι) source target,
      property Bool (Action.ofExcept (area.graph.assignable source target)))
    (keep : ∀ pair answer, property Unit (modify fun machine =>
      { machine with assignability := machine.assignability.insert pair answer }))
    (source target : ClassId) : property Bool (isAssignable source target) := by
  unfold Machine.isAssignable
  refine passes.bind passes.get fun machine => ?_
  split
  · exact passes.bind hit fun _ => passes.pure _
  · exact passes.bind miss fun _ => passes.bind passes.get fun later =>
      passes.bind (decide _ _ _) fun answer => passes.bind (keep _ answer) fun _ =>
      passes.pure answer

namespace Handing

variable {property : Action.Property (Machine ι)}

/-! ## Objects -/

theorem makeText (handing : Handing property) (content : String) :
    property Object (makeText content) := by
  unfold Machine.makeText
  exact handing.bind (handing.load .bootstrap .string) fun type => handing.makeObject _

theorem makeArray (handing : Handing property) (component : ClassId)
    (elements : List Reference) : property Object (makeArray component elements) := by
  unfold Machine.makeArray
  exact handing.bind (handing.getClass component) fun element =>
    handing.bind (handing.load component.loader _) fun type => handing.makeObject _

/-! ## Reflection -/

theorem mirrorOf? (handing : Handing property) (id : Option ClassId) :
    property Reference (mirrorOf? id) := by
  cases id with
  | none => exact handing.pure _
  | some id => exact handing.map some (handing.mirrorOf id)

theorem mirrorsOf (handing : Handing property) (ids : List ClassId) :
    property (List Reference) (mirrorsOf ids) := by
  induction ids with
  | nil => exact handing.pure _
  | cons first rest inductiveStep =>
    unfold Machine.mirrorsOf
    exact handing.bind (handing.mirrorOf first) fun mirror =>
      handing.bind inductiveStep fun mirrors => handing.pure _

theorem classLoader (handing : Handing property) (id : ClassId) :
    property Reference (classLoader id) := by
  unfold Machine.classLoader
  refine handing.bind (handing.getClass id) fun loaded => ?_
  split
  · exact handing.pure _
  · exact handing.map some (handing.handleOf id.loader)

theorem interfaces (handing : Handing property) (id : ClassId) :
    property Object (interfaces id) := by
  unfold Machine.interfaces
  exact handing.bind (handing.getClass id) fun loaded =>
    handing.bind (handing.mirrorsOf loaded.interfaces) fun mirrors =>
    handing.bind (handing.load .bootstrap .mirror) fun component =>
    handing.makeArray component mirrors

theorem declaringClass (handing : Handing property) (id : ClassId) :
    property Reference (declaringClass id) := by
  unfold Machine.declaringClass
  refine handing.bind (handing.getClass id) fun loaded => ?_
  split
  next owner _ =>
    exact handing.map some (handing.bind (handing.load id.loader owner)
      handing.mirrorOf)
  next => exact handing.pure _

theorem methodTexts (handing : Handing property) (method : Option MethodReference) :
    property (Reference × Reference) (methodTexts method) := by
  cases method with
  | none => exact handing.pure _
  | some reference =>
    unfold Machine.methodTexts
    exact handing.bind (handing.makeText reference.name) fun name =>
      handing.bind (handing.makeText reference.descriptor) fun descriptor =>
      handing.pure _

theorem enclosingMethod (handing : Handing property) (id : ClassId) :
    property Reference (enclosingMethod id) := by
  unfold Machine.enclosingMethod
  refine handing.bind (handing.getClass id) fun loaded => ?_
  split
  · exact handing.pure _
  next enclosure _ =>
    exact handing.bind (handing.load id.loader enclosure.owner) fun owner =>
      handing.bind (handing.methodTexts enclosure.method) fun texts =>
      handing.bind (handing.load .bootstrap .object) fun component =>
      handing.bind (handing.mirrorOf owner) fun mirror =>
      handing.map some (handing.makeArray component _)

/-- Every request that asks no question has the property. -/
theorem perform_of_unasked (handing : Handing property) (request : Request ι α)
    (unasked : request.question? = none) : property α request.perform := by
  cases request with
  | inspect => exact handing.get
  | attach => exact handing.attach
  | addLoader name source parent => exact handing.addLoader name source parent
  | addDefinition id definition => exact handing.addDefinition id definition
  | load id name => exact handing.load id name
  | resolve id name => exact handing.resolve id name
  | isAssignable source target => cases unasked
  | isInstance target id =>
    cases target with
    | none => exact handing.pure false
    | some object => cases unasked
  | object make => exact handing.makeObject make
  | text content => exact handing.makeText content
  | array component elements => exact handing.makeArray component elements
  | mirror id => exact handing.mirrorOf id
  | pool id => exact handing.poolOf id
  | handle id => exact handing.handleOf id
  | classLoader id => exact handing.classLoader id
  | componentType id =>
    exact handing.bind (handing.getClass id) fun loaded => handing.mirrorOf? _
  | superclass id =>
    exact handing.bind (handing.getClass id) fun loaded => handing.mirrorOf? _
  | interfaces id => exact handing.interfaces id
  | declaringClass id => exact handing.declaringClass id
  | enclosingMethod id => exact handing.enclosingMethod id
  | nameText id =>
    exact handing.bind (handing.getClass id) fun loaded => handing.makeText _
  | modifiers id =>
    exact handing.bind (handing.getClass id) fun loaded => handing.pure _

end Handing

/-! ## Objects that stand for classes and loaders -/

namespace Providing

variable {property : Action.Property (Machine ι)}

theorem mirrorOf (providing : Providing property) (id : ClassId) :
    property Object (mirrorOf id) := by
  unfold Machine.mirrorOf
  refine providing.bind (providing.getClass id) fun loaded => ?_
  split
  · exact providing.pure _
  · exact providing.bind (providing.load .bootstrap .mirror) (providing.makeMirror id)

theorem poolOf (providing : Providing property) (id : ClassId) :
    property Object (poolOf id) := by
  unfold Machine.poolOf
  refine providing.bind (providing.getClass id) fun loaded => ?_
  split
  · exact providing.pure _
  · exact providing.bind (providing.load .bootstrap .constantPool) (providing.makePool id)

theorem handleOf (providing : Providing property) (id : LoaderId) :
    property Object (handleOf id) := by
  unfold Machine.handleOf
  refine providing.bind (providing.getLoader id) fun loader => ?_
  split
  · exact providing.pure _
  · exact providing.bind (providing.load id .loaderHandle) (providing.makeHandle id)

theorem handing (providing : Providing property) : Handing property where
  toCompositional := providing.toCompositional
  attach := providing.attach
  addLoader := providing.addLoader
  addDefinition := providing.addDefinition
  load := providing.load
  resolve := providing.resolve
  getClass := providing.getClass
  makeObject := providing.makeObject
  mirrorOf := providing.mirrorOf
  poolOf := providing.poolOf
  handleOf := providing.handleOf

end Providing

/-- A request that asks a question is the question. -/
theorem perform_of_asked {property : Action.Property (Machine ι)} (request : Request ι α)
    {source target : ClassId} (asked : request.question? = some (source, target))
    (holds : property Bool (isAssignable source target)) : property α request.perform := by
  cases request with
  | isAssignable other otherTarget =>
    cases asked
    exact holds
  | isInstance reference id =>
    cases reference with
    | none => cases asked
    | some object =>
      cases asked
      exact holds
  | _ => cases asked

/-- Every request has the property if questions of assignability have it as well. -/
theorem Handing.perform {property : Action.Property (Machine ι)} (handing : Handing property)
    (asks : ∀ source target, property Bool (isAssignable source target)) (request : Request ι α) :
    property α request.perform := by
  cases asked : request.question? with
  | none => exact handing.perform_of_unasked request asked
  | some pair => exact perform_of_asked request asked (asks pair.1 pair.2)

theorem Requesting.perform {property : Action.Property (Machine ι)}
    (requesting : Requesting property) (request : Request ι α) : property α request.perform :=
  requesting.handing.perform requesting.isAssignable request

/-! ## Requests are quiet -/

theorem quiet_onArea {action : Action (Area ι) α} (quiet : action.Within Area.Quiet) :
    (onArea action).Within Quiet :=
  quiet.within fun _ _ changed => ⟨changed, rfl⟩

theorem quiet_count {advance : Metrics → Metrics}
    (kept : ∀ metrics, (advance metrics).staticInitializersRun = metrics.staticInitializersRun) :
    (count advance : Action (Machine ι) Unit).Within Quiet :=
  fun machine => ⟨.refl machine.area, kept machine.metrics⟩

theorem quiet_getClass (id : ClassId) : (getClass id : Action (Machine ι) _).Within Quiet :=
  quiet_onArea (Area.quiet_getClass id)

theorem outcome_getClass (id : ClassId) (machine : Machine ι) :
    (getClass id).outcome machine = (machine.area.loadedClass id, machine) := by
  rw [getClass, onArea, Action.outcome_within, Area.outcome_getClass]
  rfl

theorem outcome_getLoader (id : LoaderId) (machine : Machine ι) :
    (onArea (Area.getLoader id)).outcome machine = (machine.area.loader id, machine) := by
  rw [onArea, Action.outcome_within, Area.outcome_getLoader]
  rfl

theorem outcome_load (machine : Machine ι) (id : LoaderId) (name : ClassName) :
    (load id name).outcome machine =
      (((Area.load id name).outcome machine.area).1,
        { machine with area := ((Area.load id name).outcome machine.area).2 }) :=
  rfl

/-- A load is one of the area and nothing else. -/
theorem area_load_of_load {id : LoaderId} {name : ClassName} {machine after : Machine ι}
    {result : Except Fault ClassId} (ended : (load id name).outcome machine = (result, after)) :
    (Area.load id name).outcome machine.area = (result, after.area) := by
  rw [outcome_load, Prod.mk.injEq] at ended
  exact Prod.ext ended.1 (congrArg area ended.2)

/-- What begins by looking up a class and returns a result has found the class. -/
theorem found_of_getClass {id : ClassId} {machine after : Machine ι}
    {next : LoadedClass ι → Action (Machine ι) α} {value : α}
    (ended : (getClass id >>= next).outcome machine = (.ok value, after)) :
    ∃ loaded, machine.area.class? id = some loaded ∧
      (next loaded).outcome machine = (.ok value, after) := by
  rcases Action.bind_ok ended with ⟨loaded, same, looked, rest⟩
  rw [outcome_getClass, Prod.mk.injEq] at looked
  rcases looked with ⟨read, rfl⟩
  exact ⟨loaded, Area.class?_of_loadedClass read, rest⟩

/-- To make an array is to load its class and to put the elements in. -/
theorem load_of_makeArray {component : ClassId} {machine after : Machine ι}
    {elements : List Reference} {array : Object}
    (made : (makeArray component elements).outcome machine = (.ok array, after)) :
    array.elements? = some elements ∧ ∃ element,
      machine.area.class? component = some element ∧
      (Area.load component.loader element.name.arrayOf).outcome machine.area =
        (.ok array.type, after.area) := by
  rcases found_of_getClass made with ⟨element, found, rest⟩
  rcases Action.bind_ok rest with ⟨type, loaded, loads, makes⟩
  have loadsArea := area_load_of_load loads
  cases makes
  exact ⟨rfl, element, found, loadsArea⟩

theorem requesting_quiet :
    Requesting fun α (action : Action (Machine ι) α) => action.Within Quiet where
  toCompositional := Action.compositional_within Quiet
  attach machine := ⟨.refl machine.area, rfl⟩
  addLoader name source parent := quiet_onArea (Area.quiet_addLoader name source parent)
  addDefinition id definition := quiet_onArea (Area.quiet_addDefinition id definition)
  load id name := quiet_onArea (Area.loading_quiet.load id name)
  resolve id name := quiet_onArea (Area.loading_quiet.resolve id name)
  getLoader id := quiet_onArea (Area.quiet_getLoader id)
  getClass := quiet_getClass
  makeObject _ machine := ⟨.refl machine.area, rfl⟩
  makeMirror id _ machine := ⟨Area.quiet_updateClass machine.area id _ fun _ => rfl, rfl⟩
  makePool id _ machine := ⟨Area.quiet_updateClass machine.area id _ fun _ => rfl, rfl⟩
  makeHandle id _ machine := ⟨Area.quiet_updateLoader machine.area id _ fun _ => rfl, rfl⟩
  isAssignable := isAssignable_of_parts (Action.compositional_within Quiet)
    (quiet_count fun _ => rfl) (quiet_count fun _ => rfl) (fun _ _ _ => .ofExcept _)
    fun _ _ machine => ⟨.refl machine.area, rfl⟩

/-! ## What requests do to the area -/

/-- A relation between areas that spans whatever machines do to theirs. -/
structure Spans (relation : Area ι → Area ι → Prop) : Prop
    extends IsPreorder (Area ι) relation where
  addLoader : ∀ name source parent, (Area.addLoader name source parent).Within relation
  addDefinition : ∀ id definition, (Area.addDefinition id definition).Within relation
  load : ∀ id name, (Area.load id name).Within relation
  progress : ∀ area id progress,
    relation area (area.updateClass id fun loaded => { loaded with progress })
  mirror : ∀ area id mirror, mirror.mirrored? = some id →
    relation area (area.updateClass id fun loaded => { loaded with mirror := some mirror })
  pool : ∀ area id pool,
    relation area (area.updateClass id fun loaded => { loaded with pool := some pool })
  handle : ∀ area id handle,
    relation area (area.updateLoader id fun loader => { loader with handle := some handle })

namespace Spans

variable {relation : Area ι → Area ι → Prop}

/-- The relation between the areas of two machines. -/
def Between (relation : Area ι → Area ι → Prop) (before after : Machine ι) : Prop :=
  relation before.area after.area

theorem preorder (spans : Spans relation) : IsPreorder (Machine ι) (Between relation) where
  refl machine := spans.refl machine.area
  trans _ _ _ := spans.trans _ _ _

theorem resolve (spans : Spans relation) (id : LoaderId) (name : String) :
    (Area.resolve id name).Within relation := by
  have := spans.toIsPreorder
  unfold Area.resolve
  refine .bind .get fun area => ?_
  split
  · exact .pure _
  · exact spans.load id _

theorem requesting (spans : Spans relation) :
    Requesting fun α (action : Action (Machine ι) α) => action.Within (Between relation) := by
  have := spans.preorder
  have onArea {α : Type} {action : Action (Area ι) α} (inner : action.Within relation) :
      (onArea action).Within (Between relation) :=
    inner.within fun _ _ related => related
  have idle {α : Type} {action : Action (Machine ι) α}
      (kept : ∀ machine, (action.outcome machine).2.area = machine.area) :
      action.Within (Between relation) := by
    intro machine
    rw [Between, kept]
    exact spans.refl machine.area
  exact {
    toCompositional := Action.compositional_within (Between relation)
    attach := idle fun _ => rfl
    addLoader := fun name source parent => onArea (spans.addLoader name source parent)
    addDefinition := fun id definition => onArea (spans.addDefinition id definition)
    load := fun id name => onArea (spans.load id name)
    resolve := fun id name => onArea (spans.resolve id name)
    getLoader := fun id => idle fun machine => by rw [outcome_getLoader]
    getClass := fun id => idle fun machine => by rw [outcome_getClass]
    makeObject := fun _ => idle fun _ => rfl
    makeMirror := fun id _ machine => spans.mirror machine.area id _ rfl
    makePool := fun id _ machine => spans.pool machine.area id _
    makeHandle := fun id _ machine => spans.handle machine.area id _
    isAssignable := isAssignable_of_parts (Action.compositional_within (Between relation))
      (idle fun _ => rfl) (idle fun _ => rfl) (fun _ _ _ => .ofExcept _) fun _ _ =>
      idle fun _ => rfl }

end Spans

/-! ## Requests take nothing back -/

/-- Loaders, types and answers of the first machine are those of the second. -/
def Retains (before after : Machine ι) : Prop :=
  before.area.Retains after.area

instance : IsPreorder (Machine ι) Retains where
  refl machine := .refl machine.area
  trans _ _ _ := .trans

theorem spans_retains : Spans (Area.Retains : Area ι → Area ι → Prop) where
  addLoader := Area.retains_addLoader
  addDefinition := Area.retains_addDefinition
  load := Area.retains_load
  progress area id _ := Area.retains_updateClass area id fun _ => rfl
  mirror area id _ _ := Area.retains_updateClass area id fun _ => rfl
  pool area id _ := Area.retains_updateClass area id fun _ => rfl
  handle area id _ := Area.retains_relink area id _ (fun _ => rfl) fun _ => rfl

theorem requesting_retains :
    Requesting fun α (action : Action (Machine ι) α) => action.Within Retains :=
  spans_retains.requesting

end Machine

/-- Every request is quiet. -/
theorem Request.quiet {ι α : Type} (request : Request ι α) :
    request.perform.Within Machine.Quiet :=
  Machine.requesting_quiet.perform request

/-- What relates the machines before and after each request relates those before
and after any number of them. -/
theorem Machine.Reaches.within {ι : Type} {relation : Machine ι → Machine ι → Prop}
    [IsPreorder (Machine ι) relation]
    (each : ∀ {α : Type} (request : Request ι α), request.perform.Within relation)
    {before after : Machine ι} (reached : before.Reaches after) : relation before after := by
  induction reached with
  | refl => exact refl_of relation before
  | tail _ last inductiveStep =>
    rcases last with ⟨α, request, rfl⟩
    exact trans_of relation inductiveStep (each request _)

theorem Machine.Reaches.quiet {ι : Type} {before after : Machine ι}
    (reached : before.Reaches after) : before.Quiet after :=
  reached.within Request.quiet

end ClassRuntime

import ClassRuntime.Proofs.Loader.Recall
import ClassRuntime.Proofs.Loader.Safety

namespace ClassRuntime
namespace Area

/-!
# Loading is faithful

A load answers as resolution does, and what it adds to an area is remembered
rightly.  So nothing that an area remembers makes a difference to the answer.

While a loader is being asked, no loader with a lower number is linking
anything, since the asked loaders descend on the way from a definition to the
next.  This is why a request for a parent or for a basic class carries no marks.
-/

variable {ι : Type} {α β : Type} {base area before after : Area ι}

/-- No loader below the number is linking anything. -/
def Calm (area : Area ι) (id : LoaderId) : Prop :=
  ∀ {lower : LoaderId}, lower.index < id.index → area.linking lower = []

/-- A loader that can be asked: it is there, and no lower one is linking anything. -/
structure Callable (area : Area ι) (id : LoaderId) : Prop where
  fine : area.WellFormed
  known : (area.loader? id).isSome
  calm : area.Calm id

namespace Callable

variable {id : LoaderId}

/-- The bootstrap loader can be asked whenever another loader can. -/
theorem boot (callable : area.Callable id) : area.Callable .bootstrap where
  fine := callable.fine
  known := callable.fine.rooted
  calm lower := absurd lower (Nat.not_lt_zero _)

/-- The bootstrap loader is linking something only if it is itself asked. -/
theorem linking_boot (callable : area.Callable id) :
    area.linking .bootstrap = if id = .bootstrap then area.linking id else [] := by
  split
  next boot => rw [boot]
  next other =>
    have above : LoaderId.bootstrap.index < id.index :=
      Nat.pos_of_ne_zero fun zero => other (congrArg LoaderId.mk zero)
    exact callable.calm above

theorem above (callable : area.Callable id) {parent : LoaderId}
    (below : area.parent? id = some parent) : area.Callable parent where
  fine := callable.fine
  known := callable.fine.parent_known below
  calm lower := callable.calm (Nat.lt_trans lower (callable.fine.descending below))

theorem linking_above (callable : area.Callable id) {parent : LoaderId}
    (below : area.parent? id = some parent) : area.linking parent = [] :=
  callable.calm (callable.fine.descending below)

/-- A loader that begins to link a definition can still be asked. -/
theorem mark (callable : area.Callable id) {name : ClassName} (ordinary : ¬ name.isArray)
    (unanswered : area.lookup? id name = none) :
    (area.updateLoader id fun loader => loader.mark name).Callable id := by
  rcases Option.isSome_iff_exists.1 callable.known with ⟨loader, present⟩
  constructor
  · exact callable.fine.mark present ordinary unanswered
  · rw [isSome_updateLoader]
    exact callable.known
  · intro lower below
    have different : id ≠ lower := by
      rintro rfl
      exact Nat.lt_irrefl _ below
    rw [linking_updateLoader present, if_neg different]
    exact callable.calm below

end Callable

/-- An area in which a loader can be asked and answers rightly. -/
structure Ready (base : Area ι) (budget : Nat) (area : Area ι) (id : LoaderId) : Prop where
  fine : area.WellFormed
  memory : base.Memory area
  known : (area.loader? id).isSome
  enough : area.unlinkedCount < budget
  calm : area.Calm id

/-- An action on behalf of a request has left an area that remembers rightly, and
has answered as resolution does. -/
structure Recalls (base : Area ι) (goal : Goal) (home : α → LoaderId)
    (outcome : Except Fault α × Area ι) : Prop where
  memory : base.Memory outcome.2
  failed : ∀ {cause}, outcome.1 = .error (.error cause) → base.Resolves goal (.error cause)
  found : ∀ {value}, outcome.1 = .ok value → base.Resolves goal (.ok (home value))

/-- A way to load classes that is faithful as long as fewer definitions than the
given number are without a mark. -/
def FaithfulLoad (base : Area ι) (budget : Nat) (load : Load ι) : Prop :=
  ∀ {area : Area ι} {id : LoaderId} (name : ClassName), base.Ready budget area id →
    Recalls base (.load (area.linking id) id name) ClassId.loader ((load id name).outcome area)

theorem Ready.callable {budget : Nat} {id : LoaderId} (ready : base.Ready budget area id) :
    area.Callable id :=
  ⟨ready.fine, ready.known, ready.calm⟩

theorem Ready.later {budget : Nat} {id bound : LoaderId} (ready : base.Ready budget before id)
    (fine : after.WellFormed) (memory : base.Memory after) (grown : before.Grows bound after) :
    base.Ready budget after id where
  fine := fine
  memory := memory
  known := by
    rw [grown.frame.isSome]
    exact ready.known
  enough := by
    rw [unlinkedCount_eq grown.frame]
    exact ready.enough
  calm below := by
    rw [grown.frame.linking]
    exact ready.calm below

namespace Recalls

variable {goal first : Goal} {home : α → LoaderId} {next : β → LoaderId}

theorem pure (memory : base.Memory area) {value : α}
    (resolved : base.Resolves goal (.ok (home value))) :
    Recalls base goal home (.ok value, area) where
  memory := memory
  failed := by simp
  found := by
    rintro _ ⟨⟩
    exact resolved

theorem fail (memory : base.Memory area) {cause : RuntimeError}
    (resolved : base.Resolves goal (.error cause)) :
    Recalls base goal home (.error (.error cause), area) where
  memory := memory
  failed := by
    rintro _ ⟨⟩
    exact resolved
  found := by simp

theorem bind {bound : LoaderId} {post : α → Area ι → Prop} {action : Action (Area ι) α}
    {rest : α → Action (Area ι) β} (safe : Safe bound post before (action.outcome before))
    (recalls : Recalls base first home (action.outcome before))
    (passed : ∀ cause, base.Resolves first (.error cause) → base.Resolves goal (.error cause))
    (further : ∀ value middle, base.Resolves first (.ok (home value)) → base.Memory middle →
      middle.WellFormed → before.Grows bound middle → post value middle →
        Recalls base goal next ((rest value).outcome middle)) :
    Recalls base goal next ((action >>= rest).outcome before) := by
  rw [Action.outcome_bind]
  rcases ended : action.outcome before with ⟨fault | value, middle⟩
  · rw [ended] at recalls
    refine ⟨recalls.memory, ?_, by simp⟩
    rintro cause ⟨⟩
    exact passed cause (recalls.failed rfl)
  · rw [ended] at recalls safe
    exact further value middle (recalls.found rfl) recalls.memory safe.wellFormed safe.grows
      (safe.result value rfl)

/-- Another request may have the same answers. -/
theorem mono {outcome : Except Fault α × Area ι} (recalls : Recalls base first home outcome)
    (implies : ∀ {answer}, base.Resolves first answer → base.Resolves goal answer) :
    Recalls base goal home outcome :=
  ⟨recalls.memory, fun ended => implies (recalls.failed ended),
    fun ended => implies (recalls.found ended)⟩

theorem settle {goal : Goal} {id : LoaderId} {name : ClassName}
    {outcome : Except Fault ClassId × Area ι} (recalls : Recalls base goal ClassId.loader outcome)
    (answered : ∀ {found}, outcome.1 = .ok found →
      base.Memory (outcome.2.updateLoader id fun loader => loader.answer name found)) :
    Recalls base goal ClassId.loader (Area.settle id name outcome) := by
  rcases outcome with ⟨fault | found, after⟩
  · exact recalls
  · refine ⟨answered rfl, by rintro _ ⟨⟩, ?_⟩
    rintro _ ⟨⟩
    exact recalls.found rfl

/-- What a loader has defined it can be made to answer once more. -/
theorem settle_defined {goal : Goal} {id : LoaderId} {name : ClassName}
    {outcome : Except Fault ClassId × Area ι} (recalls : Recalls base goal ClassId.loader outcome)
    (known : (before.loader? id).isSome)
    (safe : Safe id (fun found after => after.lookup? id name = some found) before outcome) :
    Recalls base goal ClassId.loader (Area.settle id name outcome) := by
  rw [← safe.grows.frame.isSome] at known
  rcases Option.isSome_iff_exists.1 known with ⟨loader, present⟩
  exact recalls.settle fun ended => recalls.memory.answer_again present (safe.result _ ended)

end Recalls

/-- The bootstrap loader can be asked whenever another loader can. -/
theorem Ready.boot {budget : Nat} {id : LoaderId} (ready : base.Ready budget area id) :
    base.Ready budget area .bootstrap where
  fine := ready.fine
  memory := ready.memory
  known := ready.fine.rooted
  enough := ready.enough
  calm below := absurd below (Nat.not_lt_zero _)

/-- What a loader remembers is the answer to a request that it gets. -/
theorem Ready.recall {budget : Nat} {id : LoaderId} {name : ClassName} {found : ClassId}
    (ready : base.Ready budget area id) (answered : area.lookup? id name = some found) :
    base.Resolves (.load (area.linking id) id name) (.ok found.loader) := by
  apply ready.memory.recall ready.fine answered
  intro mark marked other answeredMark
  rw [(ready.memory.awaited marked).1] at answeredMark
  cases answeredMark

/-- A loader that begins to link a definition can be asked for its demands. -/
theorem Ready.mark {budget : Nat} {id : LoaderId} {loader : Loader ι} {name : ClassName}
    {definition : ClassDefinition ι} (ready : base.Ready (budget + 1) area id)
    (present : area.loader? id = some loader) (named : ¬ name.isArray)
    (unanswered : area.lookup? id name = none) (missing : base.Missing id name)
    (defined : area.definition? id name = some definition) (unmarked : name ∉ area.linking id) :
    base.Ready budget (area.updateLoader id fun loader => loader.mark name) id where
  fine := ready.fine.mark present named unanswered
  memory := ready.memory.mark present unanswered missing
  known := by
    rw [isSome_updateLoader]
    exact ready.known
  enough := by
    have fewer := unlinkedCount_mark defined unmarked
    have enough := ready.enough
    omega
  calm := (ready.callable.mark named unanswered).calm

/-- A prepared descriptor is that of a class that has been built. -/
theorem Prepared.built {id : LoaderId} {place : Nat} {source : Source} {name : ClassName}
    {definition : ClassDefinition ι} {type : TypeDescriptor}
    (prepared : area.Prepared id source definition type) (keyed : definition.name = name)
    (defined : base.definition? id name = some definition)
    (home : base.source? id = some source) (missing : base.Missing id name) :
    base.Built area ⟨id, place⟩ type definition := by
  have named := prepared.name.trans keyed
  constructor
  · rw [named]
    exact defined
  · exact prepared.kind
  · exact prepared.flags
  · exact prepared.enclosure
  · exact prepared.component
  · rw [prepared.source]
    exact home
  · exact prepared.extended
  · exact prepared.implemented
  · rw [named]
    exact missing

/-! ## Linking -/

/-- Demands can be met in two portions. -/
theorem Resolves.meet_append {marks : List ClassName} {id home : LoaderId} {owner : ClassName}
    {first second : List Demand} {answer : Answer}
    (met : base.Resolves (.meet marks id owner home first) (.ok home))
    (rest : base.Resolves (.meet marks id owner home second) answer) :
    base.Resolves (.meet marks id owner home (first ++ second)) answer := by
  induction first with
  | nil => exact rest
  | cons demand others inductiveStep =>
    cases met with
    | next found fits met => exact Resolves.next found fits (inductiveStep met)

theorem Resolves.meet_append_error {marks : List ClassName} {id home : LoaderId}
    {owner : ClassName} {first : List Demand} {cause : RuntimeError}
    (failed : base.Resolves (.meet marks id owner home first) (.error cause))
    (second : List Demand) :
    base.Resolves (.meet marks id owner home (first ++ second)) (.error cause) := by
  induction first with
  | nil => cases failed
  | cons demand others inductiveStep =>
    cases failed with
    | failed failed => exact Resolves.failed failed
    | refused found demanded different => exact Resolves.refused found demanded different
    | next found fits rest => exact Resolves.next found fits (inductiveStep rest)

section

variable {budget : Nat} {nested : Load ι} {id : LoaderId}
  (safe : SafeLoad budget nested) (faithful : FaithfulLoad base budget nested)

include safe faithful

theorem recalls_linkSuperclass (definition : ClassDefinition ι)
    (ready : base.Ready budget area id) :
    Recalls base (.meet (area.linking id) id definition.name id
        (definition.inheritedName?.toList.map .superclass)) (fun _ => id)
      ((linkSuperclass (nested id) definition).outcome area) := by
  unfold linkSuperclass
  split
  next none =>
    rw [none]
    exact Recalls.pure ready.memory Resolves.met
  next name inherited =>
    rw [inherited]
    refine (faithful name ready).bind (safe name ready.fine ready.known ready.enough)
      (fun cause failed => Resolves.failed failed)
      fun found middle resolved memory fine _ answered => ?_
    rcases fine.answered answered with ⟨_, type, typed, named⟩
    rcases class?_of_type? typed with ⟨loaded, present, rfl⟩
    have kinded := memory.kindOf_eq fine typed
    rw [Action.outcome_bind, outcome_getClass, loadedClass_eq_ok present]
    by_cases ordinary : loaded.kind = .ordinary
    · simp only [if_pos ordinary, Action.outcome_pure]
      refine Recalls.pure memory (Resolves.next resolved ?_ Resolves.met)
      rintro _ ⟨⟩
      rw [← ordinary, ← kinded, named]
      rfl
    · simp only [if_neg ordinary, Action.outcome_fail]
      rw [named]
      refine Recalls.fail memory (Resolves.refused resolved rfl ?_)
      rw [named] at kinded
      exact fun same => ordinary (kinded.symm.trans same)

theorem recalls_linkInterfaces (definition : ClassDefinition ι) (names : List ClassName)
    (ready : base.Ready budget area id) :
    Recalls base (.meet (area.linking id) id definition.name id (names.map .interface))
      (fun _ => id) ((linkInterfaces (nested id) definition names).outcome area) := by
  induction names generalizing area with
  | nil => exact Recalls.pure ready.memory Resolves.met
  | cons name rest inductiveStep =>
    refine (faithful name ready).bind (safe name ready.fine ready.known ready.enough)
      (fun cause failed => Resolves.failed failed)
      fun found middle resolved memory fine grown answered => ?_
    rcases fine.answered answered with ⟨_, type, typed, named⟩
    rcases class?_of_type? typed with ⟨loaded, present, rfl⟩
    have kinded := memory.kindOf_eq fine typed
    rw [Action.outcome_bind, outcome_getClass, loadedClass_eq_ok present]
    by_cases isInterface : loaded.kind = .interface
    · simp only [if_pos isInterface]
      have later := ready.later fine memory grown
      have others := inductiveStep later
      rw [grown.frame.linking] at others
      have fits : ∀ kind ∈ (Demand.interface name).kind,
          base.kindOf found.loader (Demand.interface name).name = kind := by
        rintro _ ⟨⟩
        rw [← isInterface, ← kinded, named]
        rfl
      exact others.bind (safe_linkInterfaces safe rest later.fine later.known later.enough)
        (fun cause failed => Resolves.next resolved fits failed)
        fun ids last met memoryLast _ _ _ =>
          Recalls.pure memoryLast (Resolves.next resolved fits met)
    · simp only [if_neg isInterface, Action.outcome_fail]
      refine Recalls.fail memory (Resolves.refused resolved rfl ?_)
      rw [named] at kinded
      exact fun same => isInterface (kinded.symm.trans same)

theorem recalls_link (source : Source) (definition : ClassDefinition ι)
    (ready : base.Ready budget area id) :
    Recalls base (.meet (area.linking id) id definition.name id definition.demands)
      (fun _ => id) ((link (nested id) source definition).outcome area) := by
  refine (recalls_linkSuperclass safe faithful definition ready).bind
    (safe_linkSuperclass safe ready.fine ready.known ready.enough)
    (fun cause failed => Resolves.meet_append_error failed _)
    fun superclass middle inherited memory fine grown _ => ?_
  have later := ready.later fine memory grown
  have others := recalls_linkInterfaces safe faithful definition definition.interfaces later
  rw [grown.frame.linking] at others
  exact others.bind
    (safe_linkInterfaces safe definition.interfaces later.fine later.known later.enough)
    (fun cause failed => Resolves.meet_append inherited failed)
    fun interfaces last met memoryLast _ _ _ =>
      Recalls.pure memoryLast (Resolves.meet_append inherited met)

/-! ## Defining -/

theorem recalls_define {name : ClassName} (named : ¬ name.isArray)
    (ready : base.Ready (budget + 1) area id) (unanswered : area.lookup? id name = none)
    (missing : base.Missing id name) :
    Recalls base (.define (area.linking id) id name) ClassId.loader
      ((define nested id name).outcome area) := by
  rcases Option.isSome_iff_exists.1 ready.known with ⟨loader, present⟩
  cases defined : area.definition? id name with
  | none =>
    rw [outcome_define_undefined present unanswered defined]
    rw [ready.memory.plan.definition] at defined
    exact Recalls.fail ready.memory (Resolves.undefined defined)
  | some definition =>
    have definedBase := defined
    rw [ready.memory.plan.definition] at definedBase
    by_cases marked : name ∈ area.linking id
    · rw [outcome_define_circular present unanswered defined marked]
      exact Recalls.fail ready.memory (Resolves.circular definedBase marked)
    · have marking := ready.mark present named unanswered missing defined marked
      have linking := safe_link safe loader.source definition marking.fine marking.known
        marking.enough
      have recalls := recalls_link safe faithful loader.source definition marking
      rw [linking_mark present] at recalls
      rcases linking.grows.frame.known (loader?_mark present name) with ⟨linked, presentLinked, _⟩
      rcases ended : (link (nested id) loader.source definition).outcome
        (area.updateLoader id fun loader => loader.mark name) with ⟨fault | type, middle⟩
      · rw [ended] at recalls presentLinked
        rw [outcome_define_unlinked present unanswered defined marked ended]
        refine ⟨recalls.memory.unmark presentLinked name, ?_, by simp⟩
        rintro cause ⟨⟩
        exact Resolves.linked definedBase marked (recalls.failed rfl)
      · rw [ended] at linking recalls presentLinked
        have grown := grows_unmark linking.grows
        have memory := recalls.memory.unmark presentLinked name
        rcases grown.frame.known present with ⟨later, kept, _⟩
        rw [outcome_define_linked present unanswered defined marked ended kept]
        have still : name ∈ middle.linking id := by
          rw [linking.grows.frame.linking, linking_mark present]
          exact List.mem_cons_self
        have prepared := (linking.result type rfl).unmark name
        constructor
        · refine memory.place kept ?_ ?_ ⟨fun _ elsewhere => absurd rfl elsewhere, ?_⟩ ?_
          · rw [lookup?_updateLoader (fun loader => loader.unmark name) fun _ => rfl]
            exact (recalls.memory.awaited still).1
          · intro _ _
            refine ⟨definition, prepared.built (ready.fine.keyed defined) definedBase ?_ missing⟩
            rw [← ready.memory.plan.source, source?, present, Option.bind_some]
          · exact fun array => absurd array named
          · rw [grown.frame.linking]
            exact marked
        · simp
        · rintro _ ⟨⟩
          exact Resolves.linked definedBase marked (recalls.found rfl)

/-! ## Delegation -/

theorem recalls_orDefine {name : ClassName} (named : ¬ name.isArray) {parent : LoaderId}
    {answer : Except Fault ClassId} (ready : base.Ready (budget + 1) before id)
    (unanswered : before.lookup? id name = none) (below : base.parent? id = some parent)
    (lower : parent.index < id.index)
    (asked : Safe parent (fun found after => after.lookup? parent name = some found) before
      (answer, area))
    (recalls : Recalls base (.load [] parent name) ClassId.loader (answer, area)) :
    Recalls base (.load (before.linking id) id name) ClassId.loader
      (Area.settle id name ((orDefine nested id name answer).outcome area)) := by
  have fine : area.WellFormed := asked.wellFormed
  have memory : base.Memory area := recalls.memory
  have later : base.Ready (budget + 1) area id := ready.later fine memory asked.grows
  rw [lookup?, ← asked.grows.above lower] at unanswered
  cases answer with
  | ok found =>
    have resolved := recalls.found rfl
    have parentFound : area.lookup? parent name = some found := asked.result _ rfl
    change Recalls _ _ _ (Area.settle id name (.ok found, area))
    refine Recalls.settle
      (Recalls.pure memory (Resolves.parentFirst named below resolved Resolves.inherited)) ?_
    rintro _ ⟨⟩
    rcases Option.isSome_iff_exists.1 later.known with ⟨loader, present⟩
    refine memory.answer present (fun other answered => ?_)
      ⟨fun _ _ => ⟨parent, below, parentFound⟩, fun array => absurd array named⟩ fun marked => ?_
    · rw [lookup?, unanswered] at answered
      cases answered
    · rcases (memory.awaited marked).2 parent below with ⟨missing, notFound⟩
      cases resolved.unique (memory.top fine) notFound
  | error fault =>
    rcases asked.cause fault rfl with ⟨cause, rfl⟩
    have refused := recalls.failed rfl
    cases cause with
    | classNotFound missing =>
      have defined := recalls_define safe faithful named later unanswered fun above belowAgain => by
        rw [below] at belowAgain
        cases belowAgain
        exact ⟨missing, refused⟩
      rw [asked.grows.frame.linking] at defined
      refine Recalls.settle_defined (defined.mono fun resolved =>
        Resolves.parentFirst named below refused (Resolves.shadowed resolved)) later.known
        (safe_define safe named fine later.known later.enough)
    | _ =>
      exact Recalls.fail memory
        (Resolves.parentFirst named below refused (Resolves.passed (fun _ => (by simp))))

theorem recalls_delegate {name : ClassName} (named : ¬ name.isArray) {bound : Nat}
    (within : id.index < bound) (ready : base.Ready (budget + 1) area id) :
    Recalls base (.load (area.linking id) id name) ClassId.loader
      ((delegate nested bound id name).outcome area) := by
  induction bound generalizing id with
  | zero => exact absurd within (Nat.not_lt_zero _)
  | succ bound inductiveStep =>
    rcases Option.isSome_iff_exists.1 ready.known with ⟨loader, present⟩
    cases answered : area.lookup? id name with
    | some found =>
      rw [outcome_delegate_known present answered]
      exact Recalls.pure ready.memory (ready.recall answered)
    | none =>
      cases below : area.parent? id with
      | none =>
        rw [outcome_delegate_top present answered below]
        rw [ready.memory.plan.parent] at below
        have missing : base.Missing id name := by
          intro parent belowAgain
          rw [below] at belowAgain
          cases belowAgain
        refine Recalls.settle_defined
          ((recalls_define safe faithful named ready answered missing).mono fun resolved =>
            Resolves.top named ?_ below resolved) ready.known
          (safe_define safe named ready.fine ready.known ready.enough)
        rintro ⟨rfl, keyword⟩
        exact ready.memory.lookup?_ne_none ready.fine keyword answered
      | some parent =>
        rw [outcome_delegate_parent present answered below]
        have lower := ready.fine.descending below
        have knownParent := ready.fine.parent_known below
        have calm : area.Calm parent := fun below => ready.calm (Nat.lt_trans below lower)
        have withinParent : parent.index < bound := by omega
        have asked := inductiveStep withinParent
          ⟨ready.fine, ready.memory, knownParent, ready.enough, calm⟩
        rw [ready.calm lower] at asked
        rw [ready.memory.plan.parent] at below
        exact recalls_orDefine safe faithful named ready answered below lower
          (safe_delegate safe named withinParent ready.fine knownParent ready.enough) asked

theorem recalls_loadOrdinary {name : ClassName} (named : ¬ name.isArray)
    (ready : base.Ready (budget + 1) area id) :
    Recalls base (.load (area.linking id) id name) ClassId.loader
      ((loadOrdinary nested id name).outcome area) := by
  rw [loadOrdinary, Action.outcome_bind, Action.outcome_get]
  have bounded := loader?_isSome_iff.1 ready.known
  exact recalls_delegate safe faithful named (by omega) ready

/-! ## Arrays -/

omit safe faithful in
theorem recalls_keepArray {goal : Goal} {name : ClassName}
    {component root cloneable serializable : ClassId} {element : TypeDescriptor}
    (fine : area.WellFormed) (memory : base.Memory area) (array : name.isArray)
    (behind : area.type? component = some element) (named : name.component? = some element.name)
    (resolved : base.Resolves goal (.ok component.loader)) :
    Recalls base goal ClassId.loader ((keepArray name component
      (arrayType name component element root [cloneable, serializable])).outcome area) := by
  rcases WellFormed.class_known behind with ⟨home, _, present, _⟩
  have componentAnswered := fine.recorded behind
  cases known : area.lookup? component.loader name with
  | some found =>
    rw [outcome_keepArray_known present known]
    apply Recalls.pure memory
    rw [memory.array_home array named componentAnswered known]
    exact resolved
  | none =>
    rw [outcome_keepArray_new present known]
    refine ⟨memory.place present known (fun notArray => absurd array notArray)
      ⟨fun notArray => absurd array notArray, fun _ =>
        ⟨element.name, component, named, componentAnswered, rfl⟩⟩
      fun marked => (fine.marked marked).1 array, by simp, ?_⟩
    rintro _ ⟨⟩
    exact resolved

theorem recalls_obtainArray {name componentName : ClassName} {component : ClassId}
    (ready : base.Ready (budget + 1) area id) (array : name.isArray)
    (named : name.component? = some componentName)
    (answered : area.lookup? id componentName = some component) :
    Recalls base (.meet (area.linking .bootstrap) .bootstrap name component.loader Demand.basics)
      ClassId.loader ((obtainArray nested name component).outcome area) := by
  rcases ready.fine.answered answered with ⟨_, element, behind, rfl⟩
  rcases class?_of_type? behind with ⟨loaded, place, rfl⟩
  have fits (name : ClassName) (defining : LoaderId) :
      ∀ kind ∈ (Demand.mk none name).kind, base.kindOf defining name = kind := by simp
  have boot := ready.boot
  rw [obtainArray_eq, Action.outcome_bind, outcome_getClass, loadedClass_eq_ok place]
  refine (recalls_loadOrdinary safe faithful (by decide) boot).bind
    (safe_loadBoot safe (by decide) boot.fine boot.enough)
    (fun cause failed => Resolves.failed failed)
    fun root first foundRoot memoryFirst fineFirst grownFirst _ => ?_
  have bootFirst := boot.later fineFirst memoryFirst grownFirst
  have second : Recalls base (.load (first.linking .bootstrap) .bootstrap .cloneable)
      ClassId.loader ((loadOrdinary nested .bootstrap .cloneable).outcome first) :=
    recalls_loadOrdinary safe faithful (by decide) bootFirst
  rw [grownFirst.frame.linking] at second
  refine second.bind (safe_loadBoot safe (by decide) bootFirst.fine bootFirst.enough)
    (fun cause failed => Resolves.next foundRoot (fits _ _) (Resolves.failed failed))
    fun cloneable middle foundCloneable memoryMiddle fineMiddle grownMiddle _ => ?_
  have bootMiddle := bootFirst.later fineMiddle memoryMiddle grownMiddle
  have third : Recalls base (.load (middle.linking .bootstrap) .bootstrap .serializable)
      ClassId.loader ((loadOrdinary nested .bootstrap .serializable).outcome middle) :=
    recalls_loadOrdinary safe faithful (by decide) bootMiddle
  rw [grownMiddle.frame.linking, grownFirst.frame.linking] at third
  refine third.bind (safe_loadBoot safe (by decide) bootMiddle.fine bootMiddle.enough)
    (fun cause failed => Resolves.next foundRoot (fits _ _)
      (Resolves.next foundCloneable (fits _ _) (Resolves.failed failed)))
    fun serializable last foundSerializable memoryLast fineLast grownLast _ => ?_
  have behindLast := (grownFirst.trans (grownMiddle.trans grownLast)).type behind
  exact recalls_keepArray fineLast memoryLast array behindLast named
    (Resolves.next foundRoot (fits _ _) (Resolves.next foundCloneable (fits _ _)
      (Resolves.next foundSerializable (fits _ _) Resolves.met)))

theorem recalls_loadWith (name : ClassName) (ready : base.Ready (budget + 1) area id) :
    Recalls base (.load (area.linking id) id name) ClassId.loader
      ((loadWith nested id name).outcome area) := by
  by_cases array : name.isArray
  · rcases Option.isSome_iff_exists.1 ready.known with ⟨loader, present⟩
    cases answered : area.lookup? id name with
    | some found =>
      rw [outcome_loadWith_known array present answered]
      exact Recalls.pure ready.memory (ready.recall answered)
    | none =>
      cases shape : name.component? with
      | none =>
        rw [outcome_loadWith_malformed array present answered shape]
        exact Recalls.fail ready.memory (Resolves.malformed array shape)
      | some componentName =>
        rw [outcome_loadWith_array array present answered shape]
        have recalls := recalls_loadWith componentName ready
        have loads := safe_loadWith safe componentName ready.fine ready.known ready.enough
        rw [Action.outcome_bind]
        rcases ended : (loadWith nested id componentName).outcome area with
          ⟨fault | component, middle⟩
        · rw [ended] at recalls
          refine ⟨recalls.memory, ?_, by rintro _ ⟨⟩⟩
          rintro cause ⟨⟩
          exact Resolves.componentFails array shape (recalls.failed rfl)
        · rw [ended] at recalls loads
          have later := ready.later loads.wellFormed recalls.memory loads.grows
          have answeredComponent : middle.lookup? id componentName = some component :=
            loads.result _ rfl
          have obtains := recalls_obtainArray safe faithful later array shape answeredComponent
          have obtained := safe_obtainArray safe later.fine later.enough array shape
            answeredComponent
          rw [loads.grows.frame.linking, ready.callable.linking_boot] at obtains
          refine (obtains.mono fun met => Resolves.array array shape (recalls.found rfl) met).settle
            fun {found} arrived => ?_
          have known := later.known
          rw [← obtained.grows.frame.isSome] at known
          rcases Option.isSome_iff_exists.1 known with ⟨_, presentLast⟩
          exact obtains.memory.answer_array obtained.wellFormed presentLast array shape
            (obtained.grows.answers answeredComponent) (obtained.result _ arrived)
  · rw [outcome_loadWith_ordinary array]
    exact recalls_loadOrdinary safe faithful array ready
termination_by name.nesting
decreasing_by exact ClassName.nesting_component? shape

end

theorem faithful_loadNested (base : Area ι) (depth : Nat) :
    FaithfulLoad base depth (loadNested depth : Load ι) := by
  induction depth with
  | zero => exact fun _ ready => absurd ready.enough (Nat.not_lt_zero _)
  | succ depth inductiveStep =>
    exact fun name ready => recalls_loadWith (safe_loadNested depth) inductiveStep name ready

/-- When nothing is being linked, a load answers as resolution does. -/
theorem recalls_load {id : LoaderId} (name : ClassName) (fine : area.WellFormed)
    (memory : base.Memory area) (known : (area.loader? id).isSome)
    (unlinked : ∀ id, area.linking id = []) :
    Recalls base (.load [] id name) ClassId.loader ((load id name).outcome area) := by
  have ready : base.Ready (area.definitionCount + 1) area id :=
    ⟨fine, memory, known, Nat.lt_succ_of_le (unlinkedCount_le_definitionCount area),
      fun _ => unlinked _⟩
  have recalls := faithful_loadNested base _ name ready
  rw [unlinked] at recalls
  rw [load, Action.outcome_bind, Action.outcome_get]
  exact recalls

end Area
end ClassRuntime

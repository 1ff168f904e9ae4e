import ClassRuntime.Proofs.Counting
import ClassRuntime.Proofs.Loader.Equations
import ClassRuntime.Proofs.Loader.WellFormed
import ClassRuntime.Proofs.Table
import Mathlib.Data.List.Forall2

namespace ClassRuntime
namespace Area

/-!
# Loading is safe

In a well-formed area every load comes to an end, with a class of the asked
name or with an error of the runtime: it meets no dangling handle and does not
use up its limits.  It leaves the area well formed, grown at most up to the
asked loader.

The limit on nested linking is large enough because a definition is marked
while it is being linked and a marked one is not linked again, so the number
of definitions without a mark goes down.  The limit on delegation is large
enough because parents have lower numbers.
-/

variable {ι : Type} {α β : Type} {area before after : Area ι}

/-- An action that began in an area has ended safely. -/
structure Safe (bound : LoaderId) (post : α → Area ι → Prop) (before : Area ι)
    (outcome : Except Fault α × Area ι) : Prop where
  wellFormed : outcome.2.WellFormed
  grows : before.Grows bound outcome.2
  cause : ∀ fault, outcome.1 = .error fault → ∃ cause, fault = .error cause
  result : ∀ value, outcome.1 = .ok value → post value outcome.2

namespace Safe

variable {bound : LoaderId} {post : α → Area ι → Prop}

theorem pure (fine : area.WellFormed) {value : α} (holds : post value area) :
    Safe bound post area (.ok value, area) where
  wellFormed := fine
  grows := Grows.refl bound area
  cause _ impossible := by cases impossible
  result _ same := by
    cases same
    exact holds

theorem fail (fine : area.WellFormed) (cause : RuntimeError) :
    Safe bound post area (.error (.error cause), area) where
  wellFormed := fine
  grows := Grows.refl bound area
  cause _ same := by
    cases same
    exact ⟨cause, rfl⟩
  result _ impossible := by cases impossible

theorem bind {later : β → Area ι → Prop} {action : Action (Area ι) α}
    {next : α → Action (Area ι) β} (first : Safe bound post before (action.outcome before))
    (rest : ∀ value middle, middle.WellFormed → before.Grows bound middle → post value middle →
      Safe bound later middle ((next value).outcome middle)) :
    Safe bound later before ((action >>= next).outcome before) := by
  rw [Action.outcome_bind]
  rcases ended : action.outcome before with ⟨fault | value, middle⟩
  · rw [ended] at first
    constructor
    · exact first.wellFormed
    · exact first.grows
    · exact fun other same => first.cause other (by cases same; rfl)
    · intro value impossible
      cases impossible
  · rw [ended] at first
    have remaining := rest value middle first.wellFormed first.grows (first.result value rfl)
    exact ⟨remaining.wellFormed, first.grows.trans remaining.grows, remaining.cause,
      remaining.result⟩

theorem mono {stronger : α → Area ι → Prop} {outcome : Except Fault α × Area ι}
    (safe : Safe bound stronger before outcome)
    (implies : ∀ value, before.Grows bound outcome.2 → stronger value outcome.2 →
      post value outcome.2) : Safe bound post before outcome :=
  ⟨safe.wellFormed, safe.grows, safe.cause,
    fun value ended => implies value safe.grows (safe.result value ended)⟩

/-- What is safe for a lower loader is safe for a higher one. -/
theorem raise {lower : LoaderId} {outcome : Except Fault α × Area ι}
    (safe : Safe lower post before outcome) (below : lower.index ≤ bound.index) :
    Safe bound post before outcome :=
  ⟨safe.wellFormed, safe.grows.raise below, safe.cause, safe.result⟩

theorem settle {id : LoaderId} {name : ClassName} {outcome : Except Fault ClassId × Area ι}
    (known : (before.loader? id).isSome) (unanswered : before.lookup? id name = none)
    (safe : Safe id (fun found after => after.Eligible id name found) before outcome) :
    Safe id (fun found after => after.lookup? id name = some found) before
      (Area.settle id name outcome) := by
  rcases outcome with ⟨fault | found, after⟩
  · exact ⟨safe.wellFormed, safe.grows, safe.cause, fun _ impossible => by cases impossible⟩
  · have fine : after.WellFormed := safe.wellFormed
    have grown : before.Grows id after := safe.grows
    have eligible : after.Eligible id name found := safe.result found rfl
    rw [← grown.frame.isSome] at known
    rcases Option.isSome_iff_exists.1 known with ⟨loader, present⟩
    constructor
    · exact fine.answer known eligible
    · exact grown.answer unanswered found
    · intro fault impossible
      cases impossible
    · intro value same
      cases same
      change (after.updateLoader id fun loader => loader.answer name found).lookup? id name = _
      rw [lookup?_answer present, if_pos ⟨rfl, rfl⟩]

end Safe

/-! ## Counting the definitions without a mark -/

/-- The number of a loader's definitions that are not being linked. -/
def unlinkedAt (loader : Loader ι) : Nat :=
  loader.definitions.keys.countP fun name => name ∉ loader.linking

/-- The number of definitions that are not being linked. -/
def unlinkedCount (area : Area ι) : Nat :=
  area.total unlinkedAt

theorem unlinkedCount_eq (same : before.SameFrame after) :
    after.unlinkedCount = before.unlinkedCount :=
  same.total _ fun _ => rfl

/-- To mark a definition is to have one less without a mark. -/
theorem unlinkedCount_mark {id : LoaderId} {name : ClassName} {definition : ClassDefinition ι}
    (defined : area.definition? id name = some definition) (unmarked : name ∉ area.linking id) :
    (area.updateLoader id fun loader => loader.mark name).unlinkedCount < area.unlinkedCount := by
  rcases Option.bind_eq_some_iff.1 defined with ⟨loader, known, found⟩
  rw [linking_eq known] at unmarked
  have changed := total_updateLoader unlinkedAt known fun loader => loader.mark name
  have fewer : unlinkedAt (loader.mark name) < unlinkedAt loader := by
    refine countP_lt_countP (fun other _ free => ?_) (Table.mem_keys_of_find? found)
      (by simp [Loader.mark]) (by simpa using unmarked)
    simp only [Loader.mark, List.mem_cons, not_or, decide_eq_true_eq] at free ⊢
    exact free.2
  rw [unlinkedCount, unlinkedCount]
  omega

/-! ## Linking -/

/-- What a loader has loaded in order to link a definition. -/
def Usable (area : Area ι) (id : LoaderId) (kind : Kind) (other : ClassId) : Prop :=
  other.loader.index ≤ id.index ∧ ∃ type, area.type? other = some type ∧ type.kind = kind

/-- A descriptor that has been made of a definition, but has no place yet.  The
loader answers the names in the definition with the classes in the descriptor. -/
structure Prepared (area : Area ι) (id : LoaderId) (source : Source)
    (definition : ClassDefinition ι) (type : TypeDescriptor) : Prop where
  name : type.name = definition.name
  kind : type.kind = definition.kind
  flags : type.flags = definition.flags
  enclosure : type.enclosure = definition.enclosure
  source : type.source = source
  component : type.component = none
  extended : Option.Rel (fun name other => area.lookup? id name = some other)
    definition.inheritedName? type.superclass
  implemented : List.Forall₂ (fun name other => area.lookup? id name = some other)
    definition.interfaces type.interfaces
  superclass : ∀ other ∈ type.superclass, area.Usable id .ordinary other
  interfaces : ∀ other ∈ type.interfaces, area.Usable id .interface other

/-- A way to load classes that is safe as long as fewer definitions than the
given number are without a mark. -/
def SafeLoad (budget : Nat) (load : Load ι) : Prop :=
  ∀ {area : Area ι} {id : LoaderId} (name : ClassName), area.WellFormed →
    (area.loader? id).isSome → area.unlinkedCount < budget →
      Safe id (fun found after => after.lookup? id name = some found) area
        ((load id name).outcome area)

theorem Usable.grow {id : LoaderId} {kind : Kind} {other : ClassId}
    (types : ∀ {id type}, before.type? id = some type → after.type? id = some type)
    (usable : before.Usable id kind other) : after.Usable id kind other := by
  rcases usable with ⟨below, type, typed, kinded⟩
  exact ⟨below, type, types typed, kinded⟩

theorem Prepared.grow {id : LoaderId} {source : Source} {definition : ClassDefinition ι}
    {type : TypeDescriptor}
    (types : ∀ {id type}, before.type? id = some type → after.type? id = some type)
    (answers : ∀ {id name found}, before.lookup? id name = some found →
      after.lookup? id name = some found)
    (prepared : before.Prepared id source definition type) :
    after.Prepared id source definition type :=
  { prepared with
    extended := answers_mono answers prepared.extended
    implemented := prepared.implemented.imp fun _ _ => answers
    superclass := fun other member => (prepared.superclass other member).grow types
    interfaces := fun other member => (prepared.interfaces other member).grow types }

theorem Usable.earlier {id : LoaderId} {loader : Loader ι} {kind : Kind} {other : ClassId}
    (known : area.loader? id = some loader) (usable : area.Usable id kind other) :
    area.IsEarlier ⟨id, loader.classes.size⟩ kind other := by
  rcases usable with ⟨below, type, typed, kinded⟩
  exact ⟨WellFormed.lt_next known typed below, type, typed, kinded⟩

section

variable {budget : Nat} {nested : Load ι} {id : LoaderId} {definition : ClassDefinition ι}

theorem safe_linkSuperclass (safe : SafeLoad budget nested) (fine : area.WellFormed)
    (known : (area.loader? id).isSome) (enough : area.unlinkedCount < budget) :
    Safe id (fun superclass after =>
        Option.Rel (fun name other => after.lookup? id name = some other)
          definition.inheritedName? superclass ∧
        ∀ other ∈ superclass, after.Usable id .ordinary other) area
      ((linkSuperclass (nested id) definition).outcome area) := by
  unfold linkSuperclass
  split
  next none =>
    rw [none]
    exact Safe.pure fine ⟨Option.Rel.none, fun _ impossible => by cases impossible⟩
  next name inherited =>
    rw [inherited]
    apply (safe name fine known enough).bind
    intro found middle fineNow _ answered
    rcases fineNow.answered answered with ⟨asked, type, typed, _⟩
    rcases class?_of_type? typed with ⟨loaded, present, rfl⟩
    rw [Action.outcome_bind, outcome_getClass, loadedClass_eq_ok present]
    by_cases ordinary : loaded.kind = .ordinary
    · simp only [if_pos ordinary, Action.outcome_pure]
      refine Safe.pure fineNow ⟨Option.Rel.some answered, fun other same => ?_⟩
      cases same
      exact ⟨fineNow.delegates_le asked, _, typed, ordinary⟩
    · simp only [if_neg ordinary, Action.outcome_fail]
      exact Safe.fail fineNow _

theorem safe_linkInterfaces (safe : SafeLoad budget nested) (names : List ClassName)
    (fine : area.WellFormed) (known : (area.loader? id).isSome)
    (enough : area.unlinkedCount < budget) :
    Safe id (fun interfaces after =>
        List.Forall₂ (fun name other => after.lookup? id name = some other) names interfaces ∧
        ∀ other ∈ interfaces, after.Usable id .interface other) area
      ((linkInterfaces (nested id) definition names).outcome area) := by
  induction names generalizing area with
  | nil =>
    exact Safe.pure fine ⟨List.Forall₂.nil, fun _ impossible => by cases impossible⟩
  | cons name rest inductiveStep =>
    apply (safe name fine known enough).bind
    intro found middle fineNow grown answered
    rcases fineNow.answered answered with ⟨asked, type, typed, _⟩
    rcases class?_of_type? typed with ⟨loaded, present, rfl⟩
    rw [Action.outcome_bind, outcome_getClass, loadedClass_eq_ok present]
    by_cases isInterface : loaded.kind = .interface
    · simp only [if_pos isInterface]
      rw [← grown.frame.isSome] at known
      rw [← unlinkedCount_eq grown.frame] at enough
      refine (inductiveStep fineNow known enough).bind
        fun others last fineLast grownLast usable => ?_
      refine Safe.pure fineLast
        ⟨List.Forall₂.cons (grownLast.answers answered) usable.1, fun other member => ?_⟩
      rcases List.mem_cons.1 member with same | later
      · rw [same]
        exact Usable.grow grownLast.type ⟨fineNow.delegates_le asked, _, typed, isInterface⟩
      · exact usable.2 other later
    · simp only [if_neg isInterface, Action.outcome_fail]
      exact Safe.fail fineNow _

theorem safe_link (safe : SafeLoad budget nested) (source : Source)
    (definition : ClassDefinition ι) (fine : area.WellFormed)
    (known : (area.loader? id).isSome) (enough : area.unlinkedCount < budget) :
    Safe id (fun type after => after.Prepared id source definition type) area
      ((link (nested id) source definition).outcome area) := by
  refine (safe_linkSuperclass safe fine known enough).bind
    fun superclass middle fineNow grown inherited => ?_
  rw [← grown.frame.isSome] at known
  rw [← unlinkedCount_eq grown.frame] at enough
  refine (safe_linkInterfaces safe definition.interfaces fineNow known enough).bind
    fun interfaces last fineLast grownLast usable => ?_
  refine Safe.pure fineLast ⟨rfl, rfl, rfl, rfl, rfl, rfl,
    answers_mono grownLast.answers inherited.1, usable.1, fun other same => ?_, usable.2⟩
  exact (inherited.2 other same).grow grownLast.type

/-- Frames under a mark are those without one as soon as the mark is taken off. -/
theorem SameFrame.unmark {name : ClassName}
    (frame : (area.updateLoader id fun loader => loader.mark name).SameFrame after) :
    area.SameFrame (after.updateLoader id fun loader => loader.unmark name) := by
  intro other
  have framed := frame other
  rw [loader?_updateLoader] at framed ⊢
  split at framed
  next here =>
    rw [if_pos here]
    cases earlier : area.loader? other with
    | none =>
      rw [earlier] at framed
      rw [Option.map_eq_none_iff.1 framed]
      rfl
    | some loader =>
      rw [earlier] at framed
      rcases Option.map_eq_some_iff.1 framed with ⟨later, present, same⟩
      rw [present, Option.map_some, Option.map_some, Option.map_some]
      cases later
      cases loader
      simp_all [Loader.frame, Loader.mark, Loader.unmark]
  next elsewhere =>
    rw [if_neg elsewhere]
    exact framed

/-- Linking under a mark looks like linking without one as soon as the mark is
taken off. -/
theorem grows_unmark {name : ClassName}
    (grown : (area.updateLoader id fun loader => loader.mark name).Grows id after) :
    area.Grows id (after.updateLoader id fun loader => loader.unmark name) where
  frame := grown.frame.unmark
  type {other type} typed := by
    rw [type?_unmark]
    apply grown.type
    rw [type?_mark]
    exact typed
  answers {other sought found} answered := by
    rw [lookup?_updateLoader (fun loader => loader.unmark name) fun _ => rfl]
    apply grown.answers
    rw [lookup?_updateLoader (fun loader => loader.mark name) fun _ => rfl]
    exact answered
  above {other} higher := by
    rw [loader?_updateLoader_of_lt _ _ higher, grown.above higher,
      loader?_updateLoader_of_lt _ _ higher]

/-- The mark does not matter to what has been prepared. -/
theorem Prepared.unmark {source : Source} {type : TypeDescriptor}
    (prepared : area.Prepared id source definition type) (name : ClassName) :
    (area.updateLoader id fun loader => loader.unmark name).Prepared id source definition type := by
  refine prepared.grow (fun {other _} typed => ?_) fun {other sought _} answered => ?_
  · rw [type?_unmark]
    exact typed
  · rw [lookup?_updateLoader (fun loader => loader.unmark name) fun _ => rfl]
    exact answered

/-- A prepared descriptor is linked once it has a place. -/
theorem Prepared.linked {loader : Loader ι} {source : Source} {type : TypeDescriptor}
    (known : area.loader? id = some loader) (named : ¬ definition.name.isArray)
    (prepared : area.Prepared id source definition type) :
    area.Linked ⟨id, loader.classes.size⟩ type := by
  refine Linked.declared (prepared.name ▸ named) ?_ prepared.component
    (fun other member => (prepared.superclass other member).earlier known)
    (fun other member => (prepared.interfaces other member).earlier known)
  rw [prepared.kind, ClassDefinition.kind]
  by_cases isInterface : definition.isInterface
  · have inherited := prepared.extended
    rw [ClassDefinition.inheritedName?, if_pos isInterface] at inherited
    refine Or.inr ⟨if_pos isInterface, ?_⟩
    generalize type.superclass = superclass at inherited
    cases inherited
    rfl
  · exact Or.inl (if_neg isInterface)

theorem safe_define (safe : SafeLoad budget nested) {name : ClassName}
    (named : ¬ name.isArray) (fine : area.WellFormed) (known : (area.loader? id).isSome)
    (enough : area.unlinkedCount < budget + 1) :
    Safe id (fun found after => after.lookup? id name = some found) area
      ((define nested id name).outcome area) := by
  rcases Option.isSome_iff_exists.1 known with ⟨loader, present⟩
  cases answered : area.lookup? id name with
  | some found =>
    rw [outcome_define_known present answered]
    exact Safe.pure fine answered
  | none =>
    cases defined : area.definition? id name with
    | none =>
      rw [outcome_define_undefined present answered defined]
      exact Safe.fail fine _
    | some definition =>
      by_cases marked : name ∈ area.linking id
      · rw [outcome_define_circular present answered defined marked]
        exact Safe.fail fine _
      · have fineMarked := fine.mark present named answered
        have presentMarked := loader?_mark present name
        have fewer := unlinkedCount_mark defined marked
        have linking := safe_link safe loader.source definition fineMarked
          (Option.isSome_iff_exists.2 ⟨_, presentMarked⟩) (by omega)
        rcases linking.grows.frame.known presentMarked with ⟨linked, presentLinked, _⟩
        rcases ended : (link (nested id) loader.source definition).outcome
          (area.updateLoader id fun loader => loader.mark name) with ⟨fault | type, middle⟩
        · rw [ended] at linking presentLinked
          rw [outcome_define_unlinked present answered defined marked ended]
          refine ⟨linking.wellFormed.unmark presentLinked name, grows_unmark linking.grows, ?_,
            fun _ impossible => by cases impossible⟩
          intro other same
          cases same
          exact linking.cause fault rfl
        · rw [ended] at linking presentLinked
          have grown := grows_unmark linking.grows
          have fineNow := linking.wellFormed.unmark presentLinked name
          rcases grown.frame.known present with ⟨later, kept, _⟩
          rw [outcome_define_linked present answered defined marked ended kept]
          have keyed := fine.keyed defined
          have prepared := (linking.result type rfl).unmark name
          constructor
          · refine fineNow.place kept (prepared.linked kept (keyed ▸ named))
              (prepared.name.trans keyed) (fun {other} answer => ?_) ?_
            · rw [lookup?_updateLoader (fun loader => loader.unmark name) fun _ => rfl] at answer
              have still : name ∈ middle.linking id := by
                rw [linking.grows.frame.linking, linking_mark present]
                exact List.mem_cons_self
              exact (linking.wellFormed.marked still).2 answer
            · rw [grown.frame.linking]
              exact marked
          · exact grown.place kept answered
          · intro fault impossible
            cases impossible
          · intro found same
            cases same
            change (placed _ id later name _).lookup? id name = _
            rw [lookup?_placed kept, if_pos ⟨rfl, rfl⟩]

/-! ## Delegation -/

private theorem safe_orDefine (safe : SafeLoad budget nested) {name : ClassName}
    (named : ¬ name.isArray) {parent : LoaderId} {answer : Except Fault ClassId}
    (known : (before.loader? id).isSome) (enough : before.unlinkedCount < budget + 1)
    (unanswered : before.lookup? id name = none) (below : before.parent? id = some parent)
    (lower : parent.index < id.index)
    (asked : Safe parent (fun found after => after.lookup? parent name = some found) before
      (answer, area)) :
    Safe id (fun found after => after.Eligible id name found) before
      ((orDefine nested id name answer).outcome area) := by
  have fine : area.WellFormed := asked.wellFormed
  have grown : before.Grows id area := asked.grows.raise (Nat.le_of_lt lower)
  cases answer with
  | ok found =>
    refine ⟨fine, grown, asked.cause, fun other same => ?_⟩
    cases same
    rw [← grown.frame.parent?] at below
    rw [lookup?, ← asked.grows.above lower] at unanswered
    exact fine.eligible_of_parent below unanswered (asked.result _ rfl)
  | error fault =>
    rcases asked.cause fault rfl with ⟨cause, rfl⟩
    cases cause with
    | classNotFound missing =>
      rw [← grown.frame.isSome] at known
      rw [← unlinkedCount_eq grown.frame] at enough
      have defined := safe_define safe named fine known enough
      exact ⟨defined.wellFormed, grown.trans defined.grows, defined.cause,
        fun found ended => defined.wellFormed.eligible_of_lookup (defined.result found ended)⟩
    | _ =>
      constructor
      · exact fine
      · exact grown
      · exact asked.cause
      · intro found impossible
        cases impossible

theorem safe_delegate (safe : SafeLoad budget nested) {name : ClassName}
    (named : ¬ name.isArray) {bound : Nat} (within : id.index < bound) (fine : area.WellFormed)
    (known : (area.loader? id).isSome) (enough : area.unlinkedCount < budget + 1) :
    Safe id (fun found after => after.lookup? id name = some found) area
      ((delegate nested bound id name).outcome area) := by
  induction bound generalizing id with
  | zero => exact absurd within (Nat.not_lt_zero _)
  | succ bound inductiveStep =>
    rcases Option.isSome_iff_exists.1 known with ⟨loader, present⟩
    cases answered : area.lookup? id name with
    | some found =>
      rw [outcome_delegate_known present answered]
      exact Safe.pure fine answered
    | none =>
      cases below : area.parent? id with
      | none =>
        rw [outcome_delegate_top present answered below]
        have defined := safe_define safe named fine known enough
        refine Safe.settle known answered ⟨defined.wellFormed, defined.grows, defined.cause, ?_⟩
        exact fun found ended =>
          defined.wellFormed.eligible_of_lookup (defined.result found ended)
      | some parent =>
        rw [outcome_delegate_parent present answered below]
        have lower := fine.descending below
        have withinParent : parent.index < bound := by omega
        have asked := inductiveStep withinParent (fine.parent_known below)
        exact Safe.settle known answered
          (safe_orDefine safe named known enough answered below lower asked)

theorem safe_loadOrdinary (safe : SafeLoad budget nested) {name : ClassName}
    (named : ¬ name.isArray) (fine : area.WellFormed) (known : (area.loader? id).isSome)
    (enough : area.unlinkedCount < budget + 1) :
    Safe id (fun found after => after.lookup? id name = some found) area
      ((loadOrdinary nested id name).outcome area) := by
  rw [loadOrdinary, Action.outcome_bind, Action.outcome_get]
  have bounded := loader?_isSome_iff.1 known
  exact safe_delegate safe named (by omega) fine known enough

/-! ## Arrays -/

theorem safe_loadBoot (safe : SafeLoad budget nested) {name : ClassName}
    (named : ¬ name.isArray) (fine : area.WellFormed) (enough : area.unlinkedCount < budget + 1) :
    Safe .bootstrap (fun found after => after.IsBoot found name) area
      ((loadOrdinary nested .bootstrap name).outcome area) := by
  have loaded := safe_loadOrdinary safe named fine fine.rooted enough
  apply loaded.mono
  intro found _ answered
  rcases loaded.wellFormed.answered answered with ⟨asked, typed⟩
  refine ⟨congrArg LoaderId.mk ?_, typed⟩
  exact Nat.eq_zero_of_le_zero (loaded.wellFormed.delegates_le asked)

/-- The new array class is linked.  Its component lives with it, and the three
classes of the bootstrap loader are there before it. -/
private theorem linked_array {name : ClassName} {component root cloneable serializable : ClassId}
    {element : TypeDescriptor} {home : Loader ι}
    (present : area.loader? component.loader = some home)
    (behind : area.type? component = some element) (named : name.component? = some element.name)
    (isRoot : area.IsBoot root .object) (isCloneable : area.IsBoot cloneable .cloneable)
    (isSerializable : area.IsBoot serializable .serializable) :
    area.Linked ⟨component.loader, home.classes.size⟩
      (arrayType name component element root [cloneable, serializable]) := by
  have earlier {other : ClassId} {name : ClassName} (boot : area.IsBoot other name) :
      other < ⟨component.loader, home.classes.size⟩ := by
    rcases boot with ⟨here, type, typed, _⟩
    exact WellFormed.lt_next present typed (here ▸ Nat.zero_le _)
  refine Linked.array named rfl behind ?_ isRoot isCloneable isSerializable
  intro other member
  simp only [List.mem_cons, List.not_mem_nil, or_false] at member
  rcases member with rfl | rfl | rfl | rfl
  · exact WellFormed.lt_next present behind (Nat.le_refl _)
  · exact earlier isRoot
  · exact earlier isCloneable
  · exact earlier isSerializable

theorem safe_keepArray {name : ClassName} {component root cloneable serializable : ClassId}
    {element : TypeDescriptor} (fine : area.WellFormed) (array : name.isArray)
    (behind : area.type? component = some element) (named : name.component? = some element.name)
    (isRoot : area.IsBoot root .object) (isCloneable : area.IsBoot cloneable .cloneable)
    (isSerializable : area.IsBoot serializable .serializable) :
    Safe component.loader (fun found after => after.lookup? component.loader name = some found)
      area ((keepArray name component
        (arrayType name component element root [cloneable, serializable])).outcome area) := by
  rcases WellFormed.class_known behind with ⟨home, _, present, _⟩
  cases known : area.lookup? component.loader name with
  | some found =>
    rw [outcome_keepArray_known present known]
    exact Safe.pure fine known
  | none =>
    rw [outcome_keepArray_new present known]
    constructor
    · refine fine.place present (linked_array present behind named isRoot isCloneable
        isSerializable) rfl (fun {other} answer => ?_) fun member => (fine.marked member).1 array
      rw [known] at answer
      cases answer
    · exact (Grows.refl _ area).place present known
    · intro fault impossible
      cases impossible
    · intro found same
      cases same
      change (placed area component.loader home name _).lookup? _ _ = _
      rw [lookup?_placed present, if_pos ⟨rfl, rfl⟩]

/-- The component's loader answers the name of an array with it, and nothing
has changed about what the asked loader answers the name of the component with. -/
theorem safe_obtainArray (safe : SafeLoad budget nested) {name componentName : ClassName}
    {component : ClassId} (fine : area.WellFormed) (enough : area.unlinkedCount < budget + 1)
    (array : name.isArray) (named : name.component? = some componentName)
    (answered : area.lookup? id componentName = some component) :
    Safe id (fun found after => after.lookup? component.loader name = some found) area
      ((obtainArray nested name component).outcome area) := by
  rcases fine.answered answered with ⟨asked, element, behind, rfl⟩
  rcases class?_of_type? behind with ⟨loaded, place, rfl⟩
  have upwards := fine.delegates_le asked
  rw [obtainArray_eq, Action.outcome_bind, outcome_getClass, loadedClass_eq_ok place]
  refine ((safe_loadBoot safe (by decide) fine enough).raise (Nat.zero_le _)).bind
    fun root first fineFirst grown isRoot => ?_
  rw [← unlinkedCount_eq grown.frame] at enough
  refine ((safe_loadBoot safe (by decide) fineFirst enough).raise (Nat.zero_le _)).bind
    fun cloneable second fineSecond grownSecond isCloneable => ?_
  rw [← unlinkedCount_eq grownSecond.frame] at enough
  refine ((safe_loadBoot safe (by decide) fineSecond enough).raise (Nat.zero_le _)).bind
    fun serializable third fineThird grownThird isSerializable => ?_
  have behindNow := (grown.trans (grownSecond.trans grownThird)).type behind
  exact (safe_keepArray fineThird array behindNow named
    ((isRoot.grow grownSecond.type).grow grownThird.type) (isCloneable.grow grownThird.type)
    isSerializable).raise upwards

/-- The array that the component's loader answers can be answered by the asked
loader: an array of that name of its own would have a component of its own. -/
private theorem eligible_array {name componentName : ClassName} {component found : ClassId}
    (fine : area.WellFormed) (array : name.isArray)
    (named : name.component? = some componentName)
    (component_answered : area.lookup? id componentName = some component)
    (answered : area.lookup? component.loader name = some found) :
    area.Eligible id name found where
  asked := by
    rcases fine.answered answered with ⟨asked, typed⟩
    exact ⟨(fine.answered component_answered).1.trans asked, typed⟩
  own {other type} typed home same := by
    subst same
    have own : ∃ element, type.component = some element ∧ element.loader = id ∧
        ∃ elementType, area.type? element = some elementType ∧
          type.name.component? = some elementType.name := by
      cases fine.linked typed with
      | primitive primitive _ =>
        exact absurd array
          (ClassName.not_isArray_of_isPrimitive (ClassName.isPrimitive_keyword primitive))
      | array elementNamed below behind => exact ⟨_, rfl, below.trans home, _, behind, elementNamed⟩
      | declared notArray => exact absurd array notArray
    rcases own with ⟨element, _, below, elementType, behind, elementNamed⟩
    have recorded := fine.recorded behind
    rw [named] at elementNamed
    cases elementNamed
    rw [below, component_answered] at recorded
    cases recorded
    rw [below, ← home, fine.recorded typed] at answered
    exact Option.some.inj answered
  unmarked member := absurd array (fine.marked member).1

theorem safe_loadWith (safe : SafeLoad budget nested) (name : ClassName) (fine : area.WellFormed)
    (known : (area.loader? id).isSome) (enough : area.unlinkedCount < budget + 1) :
    Safe id (fun found after => after.lookup? id name = some found) area
      ((loadWith nested id name).outcome area) := by
  by_cases array : name.isArray
  · rcases Option.isSome_iff_exists.1 known with ⟨loader, present⟩
    cases answered : area.lookup? id name with
    | some found =>
      rw [outcome_loadWith_known array present answered]
      exact Safe.pure fine answered
    | none =>
      cases shape : name.component? with
      | none =>
        rw [outcome_loadWith_malformed array present answered shape]
        exact Safe.fail fine _
      | some componentName =>
        rw [outcome_loadWith_array array present answered shape]
        refine Safe.settle known answered
          ((safe_loadWith safe componentName fine known enough).bind ?_)
        intro component middle fineNow grown found
        rw [← unlinkedCount_eq grown.frame] at enough
        have obtained := safe_obtainArray safe fineNow enough array shape found
        apply obtained.mono
        intro other grownLast home
        exact eligible_array obtained.wellFormed array shape (grownLast.answers found) home
  · rw [outcome_loadWith_ordinary array]
    exact safe_loadOrdinary safe array fine known enough
termination_by name.nesting
decreasing_by exact ClassName.nesting_component? shape

end

theorem safe_loadNested (depth : Nat) : SafeLoad depth (loadNested depth : Load ι) := by
  induction depth with
  | zero => exact fun _ _ _ enough => absurd enough (Nat.not_lt_zero _)
  | succ depth inductiveStep =>
    exact fun name fine known enough => safe_loadWith inductiveStep name fine known enough

/-! ## The limits of a load -/

theorem unlinkedCount_le_definitionCount (area : Area ι) :
    area.unlinkedCount ≤ area.definitionCount := by
  have bounded (loaders : List (Loader ι)) (count : Nat) :
      count + sumOver unlinkedAt loaders ≤
        loaders.foldl (fun count loader => count + loader.definitions.size) count := by
    induction loaders generalizing count with
    | nil => exact Nat.le_refl _
    | cons loader rest inductiveStep =>
      have fewer : unlinkedAt loader ≤ loader.definitions.size := by
        have counted := List.countP_le_length (p := fun name => name ∉ loader.linking)
          (l := loader.definitions.keys)
        rw [Table.keys, List.length_map] at counted
        exact counted
      have remaining := inductiveStep (count + loader.definitions.size)
      rw [sumOver_cons, List.foldl_cons]
      omega
  have counted := bounded area.loaders.toList 0
  rw [Nat.zero_add, Array.foldl_toList] at counted
  exact counted

theorem safe_load {id : LoaderId} (name : ClassName) (fine : area.WellFormed)
    (known : (area.loader? id).isSome) :
    Safe id (fun found after => after.lookup? id name = some found) area
      ((load id name).outcome area) := by
  rw [load, Action.outcome_bind, Action.outcome_get]
  exact safe_loadNested _ name fine known
    (Nat.lt_succ_of_le (unlinkedCount_le_definitionCount area))

end Area
end ClassRuntime

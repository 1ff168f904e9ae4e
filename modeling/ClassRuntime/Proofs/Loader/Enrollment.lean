import ClassRuntime.Proofs.Loader.Register

namespace ClassRuntime
namespace Area

/-!
# Loads keep classes under their own names

A class is given its answer together with its place, and would lose it only to another
class that its loader has found under the same name in the meantime.  Three facts
exclude this, whatever parents the loaders have been given.

While a definition is being linked, its name is marked, and no class of a marked name
is made.  While a parent is being asked, classes come about only at loaders that are
asked in turn; a loader which were asked on behalf of its own parent would never get
an answer that has not been there before.  And an array that is handed on by the
loader of its component can meet no other array of the name, since this would have
been made of another class that is found under the name of the component.
-/

variable {ι : Type} {area before middle after : Area ι} {id parent bound : LoaderId}
  {name : ClassName} {found : ClassId} {nested : Load ι}

/-! ## Chains of parents -/

/-- From a loader that has no parent no other one is asked, so that no chain of
parents that leads to it returns to where it has been. -/
theorem not_cyclic {last : LoaderId} (asked : area.Delegates id last)
    (top : area.parent? last = none) :
    ¬ Relation.TransGen (fun child parent => area.parent? child = some parent) id id := by
  induction asked using Relation.ReflTransGen.head_induction_on with
  | refl =>
    intro cycle
    rcases Relation.TransGen.head'_iff.1 cycle with ⟨next, step, _⟩
    rw [top] at step
    cases step
  | head step _ inductiveStep =>
    intro cycle
    rcases Relation.TransGen.head'_iff.1 cycle with ⟨next, first, back⟩
    cases first.symm.trans step
    exact inductiveStep (Relation.TransGen.tail' back step)

theorem not_delegates_of_parent {last : LoaderId} (below : area.parent? id = some parent)
    (asked : area.Delegates parent last) (top : area.parent? last = none) :
    ¬ area.Delegates parent id :=
  fun back => not_cyclic asked top (Relation.TransGen.tail' back below)

/-- The class has not been found. -/
def NotFound (result : Except Fault ClassId) : Prop :=
  ∃ sought, result = .error (.error (.classNotFound sought))

theorem orDefine_of_error {fault : Fault}
    (other : ¬ NotFound (.error fault)) : orDefine nested id name (.error fault) = throw fault := by
  unfold orDefine
  split
  next impossible => cases impossible
  next sought same => exact absurd ⟨sought, same⟩ other
  next same =>
    cases same
    rfl

theorem orDefine_of_notFound {result : Except Fault ClassId}
    (missed : NotFound result) : orDefine nested id name result = define nested id name := by
  rcases missed with ⟨sought, rfl⟩
  rfl

/-- A request for a class that is no array goes up to a loader without a parent, where
there is no answer if the class is not found.  Otherwise nothing comes of it but an
answer that has been there, or a fault of another kind. -/
theorem delegate_rises (nested : Load ι) (limit : Nat) (id : LoaderId) (name : ClassName)
    (area : Area ι) :
    (∃ last, area.Delegates id last ∧ (area.loader? last).isSome ∧ area.parent? last = none ∧
      (NotFound ((delegate nested limit id name).outcome area).1 →
        area.lookup? last name = none)) ∨
    (∀ other, ((delegate nested limit id name).outcome area).2.type? other = area.type? other) ∧
      ¬ NotFound ((delegate nested limit id name).outcome area).1 := by
  induction limit generalizing id with
  | zero => exact Or.inr ⟨fun _ => rfl, by rintro ⟨_, impossible⟩; cases impossible⟩
  | succ limit inductiveStep =>
    cases known : area.loader? id with
    | none =>
      rw [delegate, Action.outcome_bind, outcome_getLoader, loader_eq_error known]
      exact Or.inr ⟨fun _ => rfl, by rintro ⟨_, impossible⟩; cases impossible⟩
    | some loader =>
      cases answered : area.lookup? id name with
      | some found =>
        rw [outcome_delegate_known known answered]
        exact Or.inr ⟨fun _ => rfl, by rintro ⟨_, impossible⟩; cases impossible⟩
      | none =>
        cases below : area.parent? id with
        | none =>
          exact Or.inl ⟨id, .refl, Option.isSome_iff_exists.2 ⟨loader, known⟩, below,
            fun _ => answered⟩
        | some parent =>
          rw [outcome_delegate_parent known answered below]
          rcases asked : (delegate nested limit parent name).outcome area with ⟨result, middle⟩
          have above := inductiveStep parent
          rw [asked] at above
          dsimp only at above ⊢
          rcases above with ⟨last, rises, there, top, unanswered⟩ | ⟨same, met⟩
          · refine Or.inl ⟨last, .head below rises, there, top, fun missed => unanswered ?_⟩
            cases result with
            | ok found =>
              rcases missed with ⟨_, impossible⟩
              cases impossible
            | error fault =>
              by_contra other
              rw [orDefine_of_error other] at missed
              exact other missed
          · right
            cases result with
            | ok found =>
              refine ⟨fun other => ?_, by rintro ⟨_, impossible⟩; cases impossible⟩
              exact (type?_answer middle _ name found other).trans (same other)
            | error fault =>
              rw [orDefine_of_error met]
              exact ⟨same, met⟩

/-! ## What a load leaves behind -/

/-- A load through the given loader has left the registers in order.  New classes are
those of loaders that are asked on its behalf, and of the bootstrap loader, and have
names that were not marked there. -/
structure Enrolled (bound : LoaderId) (before after : Area ι) : Prop where
  frame : before.SameFrame after
  registered : after.Registered
  added : ∀ {id type}, after.type? id = some type → before.type? id = some type ∨
    (before.Delegates bound id.loader ∨ id.loader = .bootstrap) ∧
      (type.name ∈ before.linking id.loader → type.name.isArray)

/-- Registers that are in order remain so. -/
def Enrolls (bound : LoaderId) (before after : Area ι) : Prop :=
  before.Registered → before.Enrolled bound after

theorem SameFrame.delegates (frame : before.SameFrame after) (id last : LoaderId) :
    after.Delegates id last ↔ before.Delegates id last := by
  have same : (fun child parent => after.parent? child = some parent) =
      fun child parent => before.parent? child = some parent := by
    funext child parent
    rw [frame.parent?]
  rw [Delegates, same]
  rfl

namespace Enrolled

theorem refl (registered : area.Registered) (bound : LoaderId) : area.Enrolled bound area where
  frame _ := rfl
  registered := registered
  added typed := Or.inl typed

theorem trans (first : before.Enrolled bound middle) (second : middle.Enrolled bound after) :
    before.Enrolled bound after where
  frame := first.frame.trans second.frame
  registered := second.registered
  added {id type} typed := by
    rcases second.added typed with earlier | ⟨involved, unmarked⟩
    · exact first.added earlier
    · rw [first.frame.linking] at unmarked
      exact Or.inr ⟨involved.imp_left (first.frame.delegates _ _).1, unmarked⟩

/-- What a loader does that is asked on behalf of another one is done by the other
one as well. -/
theorem raise (enrolled : before.Enrolled bound after) (asked : before.Delegates id bound) :
    before.Enrolled id after where
  frame := enrolled.frame
  registered := enrolled.registered
  added typed := (enrolled.added typed).imp_right fun ⟨involved, unmarked⟩ =>
    ⟨involved.imp_left asked.trans, unmarked⟩

theorem boot (enrolled : before.Enrolled .bootstrap after) (top : before.parent? .bootstrap = none)
    (bound : LoaderId) : before.Enrolled bound after where
  frame := enrolled.frame
  registered := enrolled.registered
  added typed := (enrolled.added typed).imp_right fun ⟨involved, unmarked⟩ => by
    refine ⟨Or.inr (involved.elim (fun asked => ?_) id), unmarked⟩
    rcases Relation.ReflTransGen.cases_head asked with same | ⟨next, step, _⟩
    · exact same.symm
    · rw [top] at step
      cases step

theorem answer (enrolled : before.Enrolled bound middle) (fine : middle.Found id name found)
    (own : ∀ {other type}, middle.type? other = some type → other.loader = id →
      type.name = name → other = found) :
    before.Enrolled bound (middle.updateLoader id fun loader => loader.answer name found) where
  frame := enrolled.frame.trans (sameFrame_answer middle id name found)
  registered := enrolled.registered.answer fine own
  added typed := by
    rw [type?_answer] at typed
    exact enrolled.added typed

/-- An answer that has been there does not change anything. -/
theorem again (enrolled : before.Enrolled bound middle)
    (answered : middle.lookup? id name = some found) :
    before.Enrolled bound (middle.updateLoader id fun loader => loader.answer name found) := by
  refine enrolled.answer (enrolled.registered.answered answered) ?_
  rintro other type typed rfl rfl
  exact Option.some.inj ((enrolled.registered.recorded typed).symm.trans answered)

theorem settle {outcome : Except Fault ClassId × Area ι}
    (enrolled : before.Enrolled bound outcome.2)
    (answers : ∀ found, outcome.1 = .ok found → outcome.2.lookup? id name = some found) :
    before.Enrolled bound (settle id name outcome).2 := by
  rcases outcome with ⟨fault | found, after⟩
  · exact enrolled
  · exact enrolled.again (answers found rfl)

/-- A class is placed at a loader that has none of its name. -/
theorem place (enrolled : before.Enrolled bound middle) {loader : Loader ι}
    {loaded : LoadedClass ι} (known : middle.loader? id = some loader) (named : loaded.name = name)
    (fresh : ∀ {other type}, middle.type? other = some type → other.loader = id →
      type.name ≠ name)
    (unreserved : ¬ name.isPrimitive) (composed : name.isArray → middle.Composed id name)
    (involved : before.Delegates bound id) (unmarked : name ∈ before.linking id → name.isArray) :
    before.Enrolled bound (placed middle id loader name loaded) where
  frame := enrolled.frame.trans sameFrame_placed
  registered := enrolled.registered.place known named fresh unreserved composed
  added {other type} typed := by
    rw [type?_placed known] at typed
    split at typed
    next here =>
      subst here
      cases typed
      rw [named]
      exact Or.inr ⟨Or.inl involved, unmarked⟩
    next => exact enrolled.added typed

/-- For the second part it matters what the first has come to. -/
theorem bind {α β : Type} {action : Action (Area ι) α} {next : α → Action (Area ι) β}
    (first : area.Enrolled bound (action.outcome area).2)
    (rest : ∀ value middle, action.outcome area = (.ok value, middle) →
      area.Enrolled bound middle → middle.Enrolled bound ((next value).outcome middle).2) :
    area.Enrolled bound ((action >>= next).outcome area).2 := by
  rw [Action.outcome_bind]
  rcases ended : action.outcome area with ⟨cause | value, middle⟩
  all_goals rw [ended] at first
  · exact first
  · exact first.trans (rest value middle ended first)

end Enrolled

instance (bound : LoaderId) : IsPreorder (Area ι) (Enrolls bound) where
  refl _ registered := .refl registered bound
  trans _ _ _ first second registered :=
    (first registered).trans (second (first registered).registered)

theorem linking_enrolls (bound : LoaderId) :
    Linking fun α (action : Action (Area ι) α) => action.Within (Enrolls bound) where
  toCompositional := Action.compositional_within (Enrolls bound)
  getClass id area := by
    rw [outcome_getClass]
    exact refl_of (Enrolls bound) area
  incompatible _ _ := .fail _

/-! ## Loading -/

section Marked

variable {loader : Loader ι}

/-- Whatever has been done while a name was marked can be seen without the mark. -/
theorem Enrolled.unmark (known : area.loader? id = some loader)
    (linked : (area.updateLoader id fun loader => loader.mark name).Enrolled bound middle) :
    area.Enrolled bound (middle.updateLoader id fun loader => loader.unmark name) where
  frame := linked.frame.unmark
  registered := linked.registered.of_resembles (resembles_unmark middle id name)
  added {other type} typed := by
    rw [type?_unmark] at typed
    rcases linked.added typed with earlier | ⟨involved, unmarked⟩
    · rw [type?_mark] at earlier
      exact Or.inl earlier
    · refine Or.inr ⟨involved.imp_left fun asked => ?_, fun member => unmarked ?_⟩
      · refine Relation.ReflTransGen.mono (fun child parent step => ?_) _ _ asked
        rwa [parent?, bind_updateLoader (fun loader => loader.mark name) fun _ => rfl] at step
      · rw [linking_updateLoader known]
        split
        next here =>
          rw [← here, linking_eq known] at member
          exact List.mem_cons_of_mem _ member
        next => exact member

/-- No class of a name is made while the name is marked. -/
theorem Enrolled.fresh_of_marked (known : area.loader? id = some loader)
    (registered : area.Registered) (ordinary : ¬ name.isArray)
    (unanswered : area.lookup? id name = none)
    (linked : (area.updateLoader id fun loader => loader.mark name).Enrolled bound middle)
    {other : ClassId} {type : TypeDescriptor} (typed : middle.type? other = some type)
    (home : other.loader = id) : type.name ≠ name := by
  rintro rfl
  rcases linked.added typed with earlier | ⟨_, unmarked⟩
  · rw [type?_mark] at earlier
    exact registered.fresh unanswered earlier home rfl
  · refine ordinary (unmarked ?_)
    rw [home, linking_mark known]
    exact List.mem_cons_self

end Marked

/-- No class of the name comes about at a loader while its parent is asked. -/
theorem Enrolled.fresh_of_parent (registered : area.Registered)
    (below : area.parent? id = some parent) (unanswered : area.lookup? id name = none)
    {limit : Nat} {result : Except Fault ClassId}
    (asked : (delegate nested limit parent name).outcome area = (result, middle))
    (above : area.Enrolled parent middle) {other : ClassId} {type : TypeDescriptor}
    (typed : middle.type? other = some type) (home : other.loader = id) : type.name ≠ name := by
  rintro rfl
  have old : area.type? other ≠ some type :=
    fun earlier => registered.fresh unanswered earlier home rfl
  rcases above.added typed with earlier | ⟨involved | boot, _⟩
  · exact old earlier
  · have rises := delegate_rises nested limit parent type.name area
    rw [asked] at rises
    rcases rises with ⟨last, rises, _, top, _⟩ | ⟨same, _⟩
    · rw [home] at involved
      exact not_delegates_of_parent below rises top involved
    · exact old ((same other).symm.trans typed)
  · rw [← home, boot, registered.top] at below
    cases below

/-- A keyword is not missed. -/
theorem Registered.unreserved_of_notFound (registered : area.Registered) {limit : Nat}
    {result : Except Fault ClassId}
    (asked : (delegate nested limit id name).outcome area = (result, middle))
    (missed : NotFound result) : ¬ name.isPrimitive := by
  have rises := delegate_rises nested limit id name area
  rw [asked] at rises
  rcases rises with ⟨last, _, there, top, unanswered⟩ | ⟨_, met⟩
  · exact registered.unreserved there top (unanswered missed)
  · exact absurd missed met

theorem enrolled_keepArray (registered : area.Registered) (array : name.isArray)
    {component : ClassId} {element type : TypeDescriptor} (named : type.name = name)
    (behind : area.type? component = some element) (composed : name.component? = some element.name)
    (involved : area.Delegates bound component.loader) :
    area.Enrolled bound ((keepArray name component type).outcome area).2 := by
  cases known : area.loader? component.loader with
  | none =>
    rw [keepArray, Action.outcome_bind, outcome_getLoader, loader_eq_error known]
    exact .refl registered bound
  | some loader =>
    cases answered : area.lookup? component.loader name with
    | some found =>
      rw [outcome_keepArray_known known answered]
      exact .refl registered bound
    | none =>
      rw [outcome_keepArray_new known answered]
      exact (Enrolled.refl registered bound).place known named (registered.fresh answered)
        (fun keyword => ClassName.not_isArray_of_isPrimitive keyword array)
        (fun _ => ⟨component, element, rfl, behind, composed⟩) involved fun _ => array

/-- The class of an array can be handed on from the loader of its component.  If it
is from elsewhere, there is no class of its component here, and so none of its name. -/
theorem Registered.own_of_composed (registered : area.Registered) {component : ClassId}
    {componentName : ClassName} (array : name.isArray)
    (composed : name.component? = some componentName)
    (answered : area.lookup? id componentName = some component)
    (obtained : area.lookup? component.loader name = some found) {other : ClassId}
    {type : TypeDescriptor} (typed : area.type? other = some type) (home : other.loader = id)
    (named : type.name = name) : other = found := by
  subst home named
  rcases registered.composed typed array with ⟨part, element, here, behind, shape⟩
  rw [composed] at shape
  cases shape
  have recorded := registered.recorded behind
  rw [here, answered] at recorded
  cases recorded
  rw [here, registered.recorded typed] at obtained
  exact Option.some.inj obtained

section Nested

variable (retains : ∀ id name, (nested id name).Within Retains)
  (enrolls : ∀ id name, (nested id name).Within (Enrolls id))

include retains enrolls

theorem enrolled_define (registered : area.Registered) (ordinary : ¬ name.isArray)
    (unreserved : ¬ name.isPrimitive) (id : LoaderId) :
    area.Enrolled id ((define nested id name).outcome area).2 := by
  cases known : area.loader? id with
  | none =>
    rw [define, Action.outcome_bind, outcome_getLoader, loader_eq_error known]
    exact .refl registered id
  | some loader =>
    cases answered : area.lookup? id name with
    | some found =>
      rw [outcome_define_known known answered]
      exact .refl registered id
    | none =>
      cases defined : area.definition? id name with
      | none =>
        rw [outcome_define_undefined known answered defined]
        exact .refl registered id
      | some definition =>
        by_cases unmarked : name ∈ area.linking id
        · rw [outcome_define_circular known answered defined unmarked]
          exact .refl registered id
        · have linked := (linking_enrolls id).link (enrolls id) loader.source definition
            (area.updateLoader id fun loader => loader.mark name)
            (registered.of_resembles (resembles_mark area id name))
          rcases ended : (link (nested id) loader.source definition).outcome
            (area.updateLoader id fun loader => loader.mark name) with ⟨cause | type, middle⟩
          all_goals
            rw [ended] at linked
            have done := linked.unmark known
          · rw [outcome_define_unlinked known answered defined unmarked ended]
            exact done
          · have there := (done.frame.isSome id).trans (Option.isSome_iff_exists.2 ⟨loader, known⟩)
            rcases Option.isSome_iff_exists.1 there with ⟨later, present⟩
            rw [outcome_define_linked known answered defined unmarked ended present]
            have declares := declares_of_link (retains id) ended
            have named := declares.name.trans (registered.keyed defined)
            refine done.place present named (fun {other type} typed home => ?_) unreserved
              (fun array => absurd array ordinary) .refl fun marked => absurd marked unmarked
            rw [type?_unmark] at typed
            exact linked.fresh_of_marked known registered ordinary answered typed home

/-- The class is defined after all, and found under its name from then on. -/
theorem Enrolled.settleDefined (enrolled : area.Enrolled id middle) (ordinary : ¬ name.isArray)
    (unreserved : ¬ name.isPrimitive) :
    area.Enrolled id (Area.settle id name ((define nested id name).outcome middle)).2 := by
  have defined := enrolled_define retains enrolls enrolled.registered ordinary unreserved id
  exact (enrolled.trans defined).settle fun found ended =>
    lookup?_of_define retains (Prod.ext ended rfl)

theorem enrolled_delegate (registered : area.Registered) (ordinary : ¬ name.isArray) (limit : Nat)
    (id : LoaderId) : area.Enrolled id ((delegate nested limit id name).outcome area).2 := by
  induction limit generalizing id with
  | zero => exact .refl registered id
  | succ limit inductiveStep =>
    cases known : area.loader? id with
    | none =>
      rw [delegate, Action.outcome_bind, outcome_getLoader, loader_eq_error known]
      exact .refl registered id
    | some loader =>
      cases answered : area.lookup? id name with
      | some found =>
        rw [outcome_delegate_known known answered]
        exact .refl registered id
      | none =>
        cases below : area.parent? id with
        | none =>
          rw [outcome_delegate_top known answered below]
          have there := Option.isSome_iff_exists.2 ⟨loader, known⟩
          exact (Enrolled.refl registered id).settleDefined retains enrolls ordinary
            (registered.unreserved there below answered)
        | some parent =>
          rw [outcome_delegate_parent known answered below]
          have above := inductiveStep parent
          rcases asked : (delegate nested limit parent name).outcome area with ⟨result, middle⟩
          rw [asked] at above
          have raised := above.raise (.single below)
          cases result with
          | ok found =>
            rcases above.registered.answered (lookup?_of_delegate retains asked) with
              ⟨delegates, behind⟩
            refine raised.answer ⟨.head ((above.frame.parent? id).trans below) delegates, behind⟩ ?_
            intro other type typed home named
            exact absurd named (above.fresh_of_parent registered below answered asked typed home)
          | error fault =>
            by_cases missed : NotFound (.error fault)
            · rw [orDefine_of_notFound missed]
              exact raised.settleDefined retains enrolls ordinary
                (registered.unreserved_of_notFound asked missed)
            · rw [orDefine_of_error missed]
              exact raised

theorem enrolled_loadOrdinary (registered : area.Registered) (ordinary : ¬ name.isArray)
    (id : LoaderId) : area.Enrolled id ((loadOrdinary nested id name).outcome area).2 :=
  enrolled_delegate retains enrolls registered ordinary _ id

theorem enrolled_obtainArray (registered : area.Registered) (array : name.isArray)
    {component : ClassId} {element : TypeDescriptor} (behind : area.type? component = some element)
    (composed : name.component? = some element.name)
    (involved : area.Delegates bound component.loader) :
    area.Enrolled bound ((obtainArray nested name component).outcome area).2 := by
  have boot {area : Area ι} (registered : area.Registered) {name : ClassName}
      (ordinary : ¬ name.isArray) :
      area.Enrolled bound ((loadOrdinary nested .bootstrap name).outcome area).2 :=
    (enrolled_loadOrdinary retains enrolls registered ordinary _).boot registered.top bound
  have kept := fun name => retains_loadOrdinary retains .bootstrap name
  rw [obtainArray_eq]
  refine .bind ?_ fun loaded start read _ => ?_
  · rw [outcome_getClass]
    exact .refl registered bound
  rw [outcome_getClass] at read
  obtain rfl : area = start := congrArg Prod.snd read
  refine .bind (boot registered (by decide)) fun root first rooted enrolledFirst => ?_
  refine .bind (boot enrolledFirst.registered (by decide)) fun cloneable second cloned
    enrolledSecond => ?_
  refine .bind (boot enrolledSecond.registered (by decide)) fun serializable third serialized
    enrolledThird => ?_
  have grown := (((kept _).related rooted).trans ((kept _).related cloned)).trans
    ((kept _).related serialized)
  have frame := (enrolledFirst.frame.trans enrolledSecond.frame).trans enrolledThird.frame
  exact enrolled_keepArray enrolledThird.registered array rfl (grown.type behind) composed
    ((frame.delegates _ _).2 involved)

theorem enrolled_loadWith (registered : area.Registered) (id : LoaderId) (name : ClassName) :
    area.Enrolled id ((loadWith nested id name).outcome area).2 := by
  by_cases array : name.isArray
  · cases known : area.loader? id with
    | none =>
      rw [loadWith, if_pos array, Action.outcome_bind, outcome_getLoader, loader_eq_error known]
      exact .refl registered id
    | some loader =>
      cases answered : area.lookup? id name with
      | some found =>
        rw [outcome_loadWith_known array known answered]
        exact .refl registered id
      | none =>
        cases shape : name.component? with
        | none =>
          rw [outcome_loadWith_malformed array known answered shape]
          exact .refl registered id
        | some componentName =>
          have inner := enrolled_loadWith registered id componentName
          rw [outcome_loadWith_array array known answered shape, Action.outcome_bind]
          rcases first : (loadWith nested id componentName).outcome area with
            ⟨cause | component, middle⟩
          all_goals rw [first] at inner
          · exact inner
          have answeredInner := lookup?_of_loadWith retains first
          rcases inner.registered.answered answeredInner with ⟨asked, element, behind, rfl⟩
          have made :=
            enrolled_obtainArray retains enrolls inner.registered array behind shape asked
          have kept := retains_obtainArray retains name component middle
          dsimp only
          rcases second : (obtainArray nested name component).outcome middle with
            ⟨cause | found, after⟩
          all_goals
            rw [second] at made kept
            have whole := inner.trans made
          · exact whole
          have obtained := lookup?_of_obtainArray second
          rcases whole.registered.answered obtained with ⟨above, fine⟩
          exact whole.answer ⟨((made.frame.delegates _ _).2 asked).trans above, fine⟩
            (whole.registered.own_of_composed array shape (kept.answer answeredInner) obtained)
  · rw [outcome_loadWith_ordinary array]
    exact enrolled_loadOrdinary retains enrolls registered array id
termination_by name.nesting
decreasing_by exact ClassName.nesting_component? (by assumption)

end Nested

theorem enrolls_loadNested (depth : Nat) (id : LoaderId) (name : ClassName) :
    (loadNested depth id name : Action (Area ι) ClassId).Within (Enrolls id) := by
  induction depth generalizing id name with
  | zero => exact .throw _
  | succ depth inductiveStep =>
    exact fun area registered =>
      enrolled_loadWith (retains_loadNested depth) inductiveStep registered id name

theorem enrolls_load (id : LoaderId) (name : ClassName) :
    (load id name : Action (Area ι) ClassId).Within (Enrolls id) := by
  unfold load
  exact .bind .get fun area => enrolls_loadNested _ id name

theorem staysRegistered_load (id : LoaderId) (name : ClassName) :
    (load id name : Action (Area ι) ClassId).Within StaysRegistered :=
  fun area registered => (enrolls_load id name area registered).registered

end Area
end ClassRuntime

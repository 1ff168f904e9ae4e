import ClassRuntime.Proofs.Loader.Failure
import ClassRuntime.Proofs.Machine.Reachability

namespace ClassRuntime

/-!
# What a failed load leaves behind

A load that fails may have loaded other classes on its way, and these stay.  Each
of them is a class like any other: it has been linked, and its loader answers its
name.  Apart from them, and from the names that are answered now, the machine is
what it was.  In particular nothing is left over of the definitions that could not
be linked, so the same request fails once more with the same error.
-/

namespace Area

variable {ι : Type} {area before after : Area ι}

/-! ## Classes are appended -/

/-- The classes of each loader are followed by others that have just been linked. -/
def Appends (before after : Area ι) : Prop :=
  ∀ id loader, before.loader? id = some loader → ∃ later added,
    after.loader? id = some later ∧ later.classes = loader.classes ++ added ∧
      ∀ loaded ∈ added, ∃ type initializer, loaded = .fresh type initializer

instance : IsPreorder (Area ι) Appends where
  refl _ id loader known := ⟨loader, #[], known, by simp, by simp⟩
  trans _ _ _ first second id loader known := by
    rcases first id loader known with ⟨middle, added, there, same, fresh⟩
    rcases second id middle there with ⟨last, more, thereLast, sameLast, freshLast⟩
    refine ⟨last, added ++ more, thereLast, ?_, fun loaded member => ?_⟩
    · rw [sameLast, same, Array.append_assoc]
    · exact (Array.mem_append.1 member).elim (fresh loaded) (freshLast loaded)

theorem appends_updateLoader (area : Area ι) {id : LoaderId} (change : Loader ι → Loader ι)
    (kept : ∀ loader, (change loader).classes = loader.classes) :
    area.Appends (area.updateLoader id change) := by
  intro other loader known
  rw [loader?_updateLoader, known]
  split
  · exact ⟨change loader, #[], rfl, by simp [kept], by simp⟩
  · exact ⟨loader, #[], rfl, by simp, by simp⟩

theorem appends_push (area : Area ι) (id : LoaderId) (type : TypeDescriptor)
    (initializer : Option ι) :
    area.Appends (area.updateLoader id fun loader => loader.push (.fresh type initializer)) := by
  intro other loader known
  rw [loader?_updateLoader, known]
  split
  · refine ⟨_, #[.fresh type initializer], rfl, ?_, fun loaded member => ?_⟩
    · simp [Loader.push]
    · exact ⟨type, initializer, by simpa using member⟩
  · exact ⟨loader, #[], rfl, by simp, by simp⟩

theorem loading_appends :
    Loading fun α (action : Action (Area ι) α) => action.Within Appends :=
  .within (fun _ => appends_push _ _)
    (fun area _ name found =>
      appends_updateLoader area (fun loader => loader.answer name found) fun _ => rfl)
    (fun area _ name => appends_updateLoader area (fun loader => loader.mark name) fun _ => rfl)
    fun area _ name => appends_updateLoader area (fun loader => loader.unmark name) fun _ => rfl

/-- Within an unchanged frame a loader differs in its classes and answers alone. -/
theorem SameFrame.loader? (same : before.SameFrame after) {id : LoaderId} {known : Loader ι}
    (present : before.loader? id = some known) :
    ∃ later, after.loader? id = some later ∧
      later = { known with classes := later.classes, byName := later.byName } := by
  rcases same.known present with ⟨later, there, framed⟩
  refine ⟨later, there, ?_⟩
  cases later
  cases known
  simp_all [Loader.frame]

/-! ## The area of a reachable machine -/

/-- Changes that agree on the class as it is have the same effect. -/
theorem updateClass_congr {id : ClassId} {change other : LoadedClass ι → LoadedClass ι}
    (same : ∀ loaded, area.class? id = some loaded → change loaded = other loaded) :
    area.updateClass id change = area.updateClass id other := by
  apply ext_loader?
  intro home
  rw [updateClass, updateClass, loader?_updateLoader, loader?_updateLoader]
  split
  next here =>
    subst here
    cases known : area.loader? id.loader with
    | none => rfl
    | some loader =>
      simp only [Option.map_some]
      congr 2
      apply Array.ext_getElem?
      intro index
      rw [Array.getElem?_modify, Array.getElem?_modify]
      split
      next here =>
        subst here
        rw [← class?_eq known]
        cases found : area.class? id with
        | none => rfl
        | some loaded => rw [Option.map_some, Option.map_some, same loaded found]
      next => rfl
  next => rfl

/-- Whatever is noted about a class, the area remains one that can come about. -/
theorem Reachable.updateClass (reachable : area.Reachable) (id : ClassId)
    {change : LoadedClass ι → LoadedClass ι}
    (noted : ∀ loaded, ∃ progress mirror pool,
      change loaded = { loaded with progress, mirror, pool }) :
    (area.updateClass id change).Reachable := by
  cases found : area.class? id with
  | none =>
    have same : area.updateClass id change = area.updateClass id fun loaded =>
        { loaded with progress := .notStarted, mirror := none, pool := none } := by
      apply updateClass_congr
      intro loaded there
      rw [found] at there
      cases there
    rw [same]
    exact .note id _ _ _ reachable
  | some loaded =>
    rcases noted loaded with ⟨progress, mirror, pool, changed⟩
    have same : area.updateClass id change = area.updateClass id fun loaded =>
        { loaded with progress, mirror, pool } := by
      apply updateClass_congr
      intro other there
      rw [found] at there
      cases there
      exact changed
    rw [same]
    exact .note id _ _ _ reachable

/-- Loaders keep their parents, and an area remains one that can come about if the
parents of all loaders turn out to have been there. -/
structure StaysReachable (before after : Area ι) : Prop where
  parents : before.KeepsParents after
  reachable : after.ParentsFirst → before.Reachable → after.Reachable

instance : IsPreorder (Area ι) StaysReachable where
  refl area := ⟨refl_of KeepsParents area, fun _ reachable => reachable⟩
  trans _ _ _ first second := by
    refine ⟨trans_of KeepsParents first.parents second.parents, fun issued reachable => ?_⟩
    exact second.reachable issued (first.reachable
      (fun id parent asked => issued id parent (second.parents id parent asked)) reachable)

theorem staysReachable_updateClass (area : Area ι) (id : ClassId)
    {change : LoadedClass ι → LoadedClass ι}
    (noted : ∀ loaded, ∃ progress mirror pool,
      change loaded = { loaded with progress, mirror, pool }) :
    area.StaysReachable (area.updateClass id change) where
  parents := keepsParents_updateLoader area _ fun _ => rfl
  reachable _ reachable := reachable.updateClass id noted

theorem staysReachable_addLoader (name : String) (source : Source) (parent : Option LoaderId) :
    (addLoader name source parent : Action (Area ι) LoaderId).Within StaysReachable := by
  refine fun area => ⟨(staysWellFormed_addLoader name source parent area).parents, ?_⟩
  intro issued reachable
  refine .addLoader name source parent (fun named same => ?_) reachable
  rcases Option.mem_def.1 same with rfl
  rw [loader?_isSome_iff]
  refine issued ⟨area.loaders.size⟩ named ?_
  rw [parent?, loader?_addLoader, if_pos rfl]
  rfl

end Area

namespace Machine

variable {ι : Type} {machine after : Machine ι} {id : LoaderId} {name : ClassName}
  {cause : RuntimeError}

theorem spans_staysReachable : Spans (Area.StaysReachable : Area ι → Area ι → Prop) where
  addLoader := Area.staysReachable_addLoader
  addDefinition id definition area :=
    ⟨(spans_staysWellFormed.addDefinition id definition area).parents,
      fun _ reachable => .addDefinition id definition reachable⟩
  load id name area :=
    ⟨Area.loading_keepsParents.load id name area, fun _ reachable => .load id name reachable⟩
  progress area id progress :=
    Area.staysReachable_updateClass area id fun _ => ⟨progress, _, _, rfl⟩
  mirror area id mirror _ :=
    Area.staysReachable_updateClass area id fun _ => ⟨_, some mirror, _, rfl⟩
  pool area id pool := Area.staysReachable_updateClass area id fun _ => ⟨_, _, some pool, rfl⟩
  handle area id handle :=
    ⟨Area.keepsParents_updateLoader area (fun loader => { loader with handle := some handle })
      fun _ => rfl, fun _ reachable => .hand id (some handle) reachable⟩

theorem Reachable.area (reachable : machine.Reachable) (issued : machine.area.ParentsFirst) :
    machine.area.Reachable := by
  rcases reachable with ⟨number, definitions, becomes⟩
  exact (becomes.area spans_staysReachable).reachable issued (.initial definitions)

/-- After a failed load the loader does not answer the name, nothing is being linked,
and loaders differ from what they were at most in classes that follow the earlier ones
and in names that had no answer.  The new classes have been linked and are what their
definitions make of them, and their loaders answer their names.  The rest of the machine
is as it was, and the load fails once more in the same way without any change. -/
theorem Reachable.failed_load (reachable : machine.Reachable)
    (issued : machine.area.ParentsFirst)
    (failed : (load id name).outcome machine = (.error (.error cause), after)) :
    after.area.lookup? id name = none ∧
      (∀ other, after.area.linking other = []) ∧
      (∀ other, machine.area.loader? other = none → after.area.loader? other = none) ∧
      (∀ other known, machine.area.loader? other = some known →
        ∃ added byName,
          after.area.loader? other =
              some { known with classes := known.classes ++ added, byName } ∧
            (∀ sought found, known.byName.find? sought = some found →
              byName.find? sought = some found) ∧
            ∀ index loaded, added[index]? = some loaded →
              (∃ type initializer, loaded = .fresh type initializer) ∧
                after.area.Linked ⟨other, known.classes.size + index⟩ loaded.toTypeDescriptor ∧
                after.area.Assembled ⟨other, known.classes.size + index⟩ loaded.toTypeDescriptor ∧
                byName.find? loaded.name = some ⟨other, known.classes.size + index⟩) ∧
      after = { machine with area := after.area } ∧
      (load id name).outcome after = (.error (.error cause), after) := by
  have rested := (reachable.area issued).rested
  rw [outcome_load] at failed
  rcases ended : (Area.load id name).outcome machine.area with ⟨result, later⟩
  rw [ended] at failed
  cases failed
  have known : (machine.area.loader? id).isSome :=
    Area.isSome_of_load_error (congrArg Prod.fst ended)
  have poised := rested.poised known
  have safe := Area.safe_load name poised.fine known
  have lasting := Area.lasting_load name poised
  have appends := Area.loading_appends.load id name machine.area
  rw [ended] at safe lasting appends
  have frame : machine.area.SameFrame later := safe.grows.frame
  rcases rested.load_again ended with ⟨unanswered, again⟩
  refine ⟨unanswered, fun other => ?_, fun other missing => ?_, fun other known present => ?_, rfl,
    ?_⟩
  · exact (frame.linking other).trans (rested.unlinked other)
  · change later.loader? other = none
    rw [← Option.not_isSome_iff_eq_none, frame.isSome, missing]
    exact Bool.false_ne_true
  · rcases frame.loader? present with ⟨loader, there, kept⟩
    rcases appends other known present with ⟨again, added, thereAgain, classes, fresh⟩
    rw [there] at thereAgain
    cases thereAgain
    refine ⟨added, loader.byName, ?_, fun sought found answered => ?_, fun index loaded place => ?_⟩
    · rw [← classes, ← kept]
      exact there
    · rw [← Area.lookup?_eq there]
      apply safe.grows.answers
      rw [Area.lookup?_eq present]
      exact answered
    · have found : later.class? ⟨other, known.classes.size + index⟩ = some loaded := by
        rw [Area.class?_eq there, classes, Array.getElem?_append_right (Nat.le_add_right _ _),
          Nat.add_sub_cancel_left]
        exact place
      have typed := Area.type?_of_class? found
      have unknown : machine.area.type? ⟨other, known.classes.size + index⟩ = none := by
        rw [Area.type?, Area.class?_eq present]
        simp
      refine ⟨fresh loaded (Array.mem_of_getElem? place), safe.wellFormed.linked typed, ?_, ?_⟩
      · refine (lasting.accrues.made typed).resolve_left fun earlier => ?_
        rw [unknown] at earlier
        cases earlier
      · rw [← Area.lookup?_eq there]
        exact safe.wellFormed.recorded typed
  · rw [outcome_load, again]

/-- The case of a class with a superclass, an interface and an interface that cannot be
linked.  The first two stay. -/
theorem failed_load_halfway :
    let definitions : List (ClassDefinition Unit) :=
      [{ ClassDefinition.ordinary ClassName.object with superName := none }]
    let add (definition : ClassDefinition Unit) (machine : Machine Unit) :=
      ((onArea (Area.addDefinition ⟨1⟩ definition)).outcome machine).2
    let child := ((onArea (Area.addLoader "child" .bootPath none)).outcome
      (initial 0 definitions)).2
    let machine := add (.implementing (.interface "J") ["Gone"]) (add (.interface "I")
      (add (.ordinary "B") (add (.implementing (.extending (.ordinary "A") "B") ["I", "J"]) child)))
    let after := ((load ⟨1⟩ "A").outcome machine).2
    machine.Reachable ∧ machine.area.ParentsFirst ∧
      (load ⟨1⟩ "A").outcome machine = (.error (.error (.classNotFound "Gone")), after) ∧
      machine.area.lookup? ⟨1⟩ "B" = none ∧ after.area.lookup? ⟨1⟩ "B" = some ⟨⟨1⟩, 0⟩ ∧
      machine.area.lookup? ⟨1⟩ "I" = none ∧ after.area.lookup? ⟨1⟩ "I" = some ⟨⟨1⟩, 1⟩ ∧
      after.area.lookup? ⟨1⟩ "A" = none ∧
      (load ⟨1⟩ "A").outcome after = (.error (.error (.classNotFound "Gone")), after) := by
  intro definitions add child machine after
  have adding (definition : ClassDefinition Unit) {machine : Machine Unit}
      (reachable : machine.Reachable) : (add definition machine).Reachable :=
    reachable.perform (.addDefinition ⟨1⟩ definition)
  have reachableChild : child.Reachable :=
    (reachable_initial 0 definitions).perform (.addLoader "child" .bootPath none)
  have reachable : machine.Reachable :=
    adding _ (adding _ (adding _ (adding _ reachableChild)))
  have issued : machine.area.ParentsFirst := by decide +kernel
  have failed : (load ⟨1⟩ "A").outcome machine =
      (.error (.error (.classNotFound "Gone")), after) :=
    Prod.ext (by decide +kernel) rfl
  rcases reachable.failed_load issued failed with ⟨unanswered, _, _, _, _, again⟩
  exact ⟨reachable, issued, failed, by decide +kernel, by decide +kernel, by decide +kernel,
    by decide +kernel, unanswered, again⟩

end Machine
end ClassRuntime

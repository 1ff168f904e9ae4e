import ClassRuntime.Proofs.Machine.Reachability

namespace ClassRuntime

/-!
# Mirrors

A class is given a mirror at most once, when it is asked for it, and the mirror
stands for the class by its handle.  That the mirror which a class keeps is its
own has to be shown of all that happens to a machine: a class that is loaded has
no mirror yet, and nothing else touches the mirrors of classes.
-/

namespace Area

variable {ι : Type} {area before after : Area ι}

/-- The mirror that a class keeps. -/
def mirror? (area : Area ι) (id : ClassId) : Option Object :=
  (area.class? id).bind fun loaded => loaded.mirror

/-- The mirrors that classes keep are their own. -/
def Mirrored (area : Area ι) : Prop :=
  ∀ id mirror, area.mirror? id = some mirror → mirror.mirrored? = some id

/-- Classes do not come to keep the mirrors of others. -/
def StaysMirrored (before after : Area ι) : Prop :=
  before.Mirrored → after.Mirrored

instance : IsPreorder (Area ι) StaysMirrored where
  refl _ mirrored := mirrored
  trans _ _ _ first second mirrored := second (first mirrored)

theorem Mirrored.of_kept (kept : ∀ id mirror, after.mirror? id = some mirror →
    before.mirror? id = some mirror) : before.StaysMirrored after :=
  fun mirrored id mirror keeps => mirrored id mirror (kept id mirror keeps)

theorem mirror?_eq {id : ClassId} {loaded : LoadedClass ι} (found : area.class? id = some loaded) :
    area.mirror? id = loaded.mirror := by
  rw [mirror?, found, Option.bind_some]

theorem mirrored_initial (definitions : List (ClassDefinition ι)) :
    (initial definitions).Mirrored := by
  intro id mirror keeps
  rcases Option.bind_eq_some_iff.1 keeps with ⟨loaded, found, kept⟩
  rcases class?_initial found with ⟨_, rfl⟩
  cases kept

theorem mirrored_updateLoader (area : Area ι) {id : LoaderId} (change : Loader ι → Loader ι)
    (kept : ∀ loader, (change loader).classes = loader.classes) :
    area.StaysMirrored (area.updateLoader id change) := by
  refine .of_kept fun other mirror keeps => ?_
  rw [mirror?, class?_updateLoader change kept] at keeps
  exact keeps

theorem mirrored_updateClass (area : Area ι) (id : ClassId)
    {change : LoadedClass ι → LoadedClass ι}
    (kept : ∀ loaded, (change loaded).mirror = loaded.mirror) :
    area.StaysMirrored (area.updateClass id change) := by
  refine .of_kept fun other mirror keeps => ?_
  rw [mirror?, class?_updateClass] at keeps
  split at keeps
  · rw [Option.bind_map] at keeps
    rw [mirror?, ← keeps]
    exact congrArg _ (funext fun loaded => (kept loaded).symm)
  · exact keeps

theorem mirrored_keepMirror (area : Area ι) {id : ClassId} {mirror : Object}
    (own : mirror.mirrored? = some id) :
    area.StaysMirrored
      (area.updateClass id fun loaded => { loaded with mirror := some mirror }) := by
  intro mirrored other kept keeps
  rw [mirror?, class?_updateClass] at keeps
  split at keeps
  next here =>
    subst here
    rcases Option.bind_eq_some_iff.1 keeps with ⟨changed, found, same⟩
    rcases Option.map_eq_some_iff.1 found with ⟨loaded, _, rfl⟩
    cases same
    exact own
  next => exact mirrored other kept keeps

/-- A class that has just been linked keeps no mirror. -/
theorem mirrored_push {id : LoaderId} {loader : Loader ι} (known : area.loader? id = some loader)
    (type : TypeDescriptor) (initializer : Option ι) :
    area.StaysMirrored
      (area.updateLoader id fun loader => loader.push (.fresh type initializer)) := by
  refine .of_kept fun other mirror keeps => ?_
  rw [mirror?, class?_push known] at keeps
  split at keeps
  · cases keeps
  · exact keeps

theorem loading_mirrored :
    Loading fun α (action : Action (Area ι) α) => action.Within StaysMirrored :=
  .within mirrored_push
    (fun area _ name found =>
      mirrored_updateLoader area (fun loader => loader.answer name found) fun _ => rfl)
    (fun area _ name => mirrored_updateLoader area (fun loader => loader.mark name) fun _ => rfl)
    fun area _ name => mirrored_updateLoader area (fun loader => loader.unmark name) fun _ => rfl

theorem mirrored_addLoader (name : String) (source : Source) (parent : Option LoaderId) :
    (addLoader name source parent : Action (Area ι) LoaderId).Within StaysMirrored := by
  refine fun area => .of_kept fun id mirror keeps => ?_
  rw [mirror?, class?, loader?_addLoader] at keeps
  split at keeps
  · cases keeps
  · exact keeps

end Area

namespace Machine

variable {ι : Type} {machine after : Machine ι} {id : ClassId} {mirror : Object}

theorem spans_staysMirrored : Spans (Area.StaysMirrored : Area ι → Area ι → Prop) where
  addLoader := Area.mirrored_addLoader
  addDefinition id definition area := by
    rw [Area.outcome_addDefinition]
    exact Area.mirrored_updateLoader area (fun loader => loader.addDefinition definition)
      fun _ => rfl
  load := Area.loading_mirrored.load
  progress area id _ := Area.mirrored_updateClass area id fun _ => rfl
  mirror area _ _ own := Area.mirrored_keepMirror area own
  pool area id _ := Area.mirrored_updateClass area id fun _ => rfl
  handle area _ handle :=
    Area.mirrored_updateLoader area (fun loader => { loader with handle := some handle })
      fun _ => rfl

theorem Reachable.mirrored (reachable : machine.Reachable) : machine.area.Mirrored := by
  rcases reachable with ⟨number, definitions, becomes⟩
  exact becomes.area spans_staysMirrored (Area.mirrored_initial definitions)

/-- A mirror that has been made stands for its class. -/
theorem Reachable.exists_mirror (reachable : machine.Reachable)
    (made : (machine.area.mirror? id).isSome) :
    ∃ mirror, machine.area.mirror? id = some mirror ∧ mirror.mirrored? = some id := by
  rcases Option.isSome_iff_exists.1 made with ⟨mirror, kept⟩
  exact ⟨mirror, kept, reachable.mirrored id mirror kept⟩

/-- What a reachable machine hands out as the mirror of a class stands for that
class. -/
theorem Reachable.mirrored?_of_mirrorOf (reachable : machine.Reachable)
    (made : (mirrorOf id).outcome machine = (.ok mirror, after)) : mirror.mirrored? = some id := by
  unfold mirrorOf at made
  rcases found_of_getClass made with ⟨loaded, found, rest⟩
  cases kept : loaded.mirror with
  | some own =>
    rw [kept] at rest
    cases rest
    refine reachable.mirrored id mirror ?_
    rw [Area.mirror?_eq found, kept]
  | none =>
    rw [kept] at rest
    rcases Action.bind_ok rest with ⟨type, loaded, _, making⟩
    cases making
    rfl

end Machine
end ClassRuntime

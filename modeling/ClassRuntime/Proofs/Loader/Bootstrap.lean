import ClassRuntime.Proofs.Loader.Grounding

namespace ClassRuntime
namespace Area

/-!
# Classes of the bootstrap loader

The bootstrap loader has no parent, so whatever it finds under the name of a class
that is no array it has defined itself, under that very name.  This is so however
other loaders are arranged, also if their parents do not exist or lead in a circle.

Arrays are left out for a reason.  The class of an array lives with its component,
and the bootstrap loader is one of those that may answer its name.
-/

variable {ι : Type} {area before after : Area ι} {id : LoaderId} {name : ClassName}

/-- The bootstrap loader answers the names of classes that are no arrays with classes
of its own. -/
structure Booted (area : Area ι) : Prop where
  known : (area.loader? .bootstrap).isSome
  top : area.parent? .bootstrap = none
  keyed : ∀ {name definition}, area.definition? .bootstrap name = some definition →
    definition.name = name
  own : ∀ {name found}, ¬ name.isArray → area.lookup? .bootstrap name = some found →
    area.IsBoot found name

/-- The bootstrap loader does not come to answer with classes of others. -/
def StaysBooted (before after : Area ι) : Prop :=
  before.Booted → after.Booted

instance : IsPreorder (Area ι) StaysBooted where
  refl _ booted := booted
  trans _ _ _ first second booted := second (first booted)

theorem WellFormed.booted (fine : area.WellFormed) : area.Booted where
  known := fine.rooted
  top := by
    cases asked : area.parent? .bootstrap with
    | none => rfl
    | some parent => exact absurd (fine.descending asked) (Nat.not_lt_zero _)
  keyed := fine.keyed
  own _ answered := by
    rcases fine.answered answered with ⟨asked, type⟩
    refine ⟨?_, type⟩
    exact congrArg LoaderId.mk (Nat.le_zero.1 (fine.delegates_le asked))

namespace Booted

/-! ## Each change keeps the bootstrap loader in order -/

/-- Within an unchanged frame, new answers are all that matters. -/
theorem of_frame (booted : before.Booted) (frame : before.SameFrame after)
    (own : ∀ {name found}, ¬ name.isArray → after.lookup? .bootstrap name = some found →
      after.IsBoot found name) : after.Booted where
  known := (frame.isSome _).trans booted.known
  top := (frame.parent? _).trans booted.top
  keyed {_ _} found := booted.keyed ((frame.definition? _ _).symm.trans found)
  own := own

theorem of_resembles (booted : before.Booted) (same : before.Resembles after) : after.Booted where
  known := (same.known _).trans booted.known
  top := (same.parent _).trans booted.top
  keyed {_ _} found := same.keyed .bootstrap (fun _ _ found => booted.keyed found) _ _ found
  own ordinary answered := by
    rw [same.answer] at answered
    exact (booted.own ordinary answered).grow fun {other type} typed => (same.type other).trans typed

theorem answer (booted : area.Booted) {found : ClassId}
    (own : id = .bootstrap → ¬ name.isArray → area.IsBoot found name) :
    (area.updateLoader id fun loader => loader.answer name found).Booted := by
  refine booted.of_frame (sameFrame_answer area id name found)
    fun {sought other} ordinary answered => ?_
  have home : area.IsBoot other sought := by
    cases present : area.loader? id with
    | none =>
      rw [updateLoader_of_unknown present] at answered
      exact booted.own ordinary answered
    | some loader =>
      rw [lookup?_answer present] at answered
      split at answered
      next here =>
        rcases here with ⟨asked, rfl⟩
        cases answered
        exact own asked ordinary
      next => exact booted.own ordinary answered
  refine home.grow fun {sought type} typed => ?_
  rwa [type?_answer]

theorem place (booted : area.Booted) {loader : Loader ι} {loaded : LoadedClass ι}
    (known : area.loader? id = some loader)
    (named : id = .bootstrap → ¬ name.isArray → loaded.name = name) :
    (placed area id loader name loaded).Booted := by
  have grown := grows_push known loaded
  have pushed : (area.updateLoader id fun loader => loader.push loaded).Booted := by
    refine booted.of_frame grown.frame fun {sought found} ordinary answered => ?_
    rw [lookup?_updateLoader (fun loader => loader.push loaded) fun _ => rfl] at answered
    exact (booted.own ordinary answered).grow grown.type
  refine pushed.answer fun here ordinary => ⟨here, loaded.toTypeDescriptor, ?_, named here ordinary⟩
  rw [type?, class?_push known, if_pos rfl, Option.map_some]

end Booted

/-! ## Loading -/

theorem Booted.change (booted : before.Booted) (change : before.Change after) : after.Booted := by
  cases change with
  | mark id unanswered => exact booted.of_resembles (resembles_mark before id _)
  | unmark id name => exact booted.of_resembles (resembles_unmark before id name)
  | @answer id name home found answered passed =>
    refine booted.answer fun here ordinary => ?_
    rcases passed with rfl | parent | array
    · exact booted.own ordinary (here ▸ answered)
    · rw [here, booted.top] at parent
      cases parent
    · exact absurd array ordinary
  | declare marked once known defined declares =>
    refine (booted.of_resembles (resembles_unmark before _ _)).place known fun here _ => ?_
    exact declares.name.trans (booted.keyed (here ▸ defined))
  | array named known behind isRoot isCloneable isSerializable =>
    exact booted.place known fun _ ordinary => absurd named ordinary

theorem staysBooted_load (id : LoaderId) (name : ClassName) :
    (load id name : Action (Area ι) ClassId).Within StaysBooted :=
  fun area booted =>
    (builds_load id name area).assembles.keeps (fun change holds => holds.change change) booted

/-! ## Loaders and definitions -/

/-- A new loader has another number than the bootstrap loader. -/
theorem staysBooted_addLoader (name : String) (source : Source) (parent : Option LoaderId) :
    (addLoader name source parent : Action (Area ι) LoaderId).Within StaysBooted := by
  intro area booted
  rcases Option.isSome_iff_exists.1 booted.known with ⟨loader, known⟩
  have kept := loader?_addLoader_of_known name source parent known
  refine ⟨Option.isSome_iff_exists.2 ⟨loader, kept⟩, ?_, fun {sought definition} found => ?_,
    fun {sought found} ordinary answered => ?_⟩
  · rw [parent?_eq kept, ← parent?_eq known]
    exact booted.top
  · rw [definition?_eq kept, ← definition?_eq known] at found
    exact booted.keyed found
  · rw [lookup?_eq kept, ← lookup?_eq known] at answered
    exact (booted.own ordinary answered).grow (type?_addLoader_of_some name source parent)

theorem staysBooted_addDefinition (id : LoaderId) (definition : ClassDefinition ι) :
    (addDefinition id definition).Within StaysBooted := by
  intro area booted
  rw [outcome_addDefinition]
  exact booted.of_resembles (resembles_addDefinition area id definition)

end Area
end ClassRuntime

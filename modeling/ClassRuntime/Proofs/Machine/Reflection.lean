import ClassRuntime.Proofs.Machine.Canonical

namespace ClassRuntime
namespace Machine

/-!
# Class objects in answers

Reflection hands out class objects as answers, as the elements of an array and as the
first of the three things that are said about an enclosing method.  Each of them is the
mirror of the class concerned and stands for it when the answer is given, whatever is
loaded or made between the request for the mirror and the end of the answer.
-/

variable {ι α : Type} {machine before after : Machine ι} {id : ClassId} {subject : Subject}
  {object : Object} {target : Reference}

theorem Stands.later (stands : before.Stands subject object) (becomes : before.Becomes after) :
    after.Stands subject object :=
  fun later onward => stands later (trans_of Becomes becomes onward)

/-- The reference is to the object that stands for the class. -/
def Shows (machine : Machine ι) (id : ClassId) (target : Reference) : Prop :=
  ∃ mirror, target = some mirror ∧ machine.Stands (.mirror id) mirror

/-- The object that stands for the class, or null if there is no class. -/
abbrev ShowsAny (machine : Machine ι) : Option ClassId → Reference → Prop :=
  Option.Rel fun id mirror => machine.Stands (.mirror id) mirror

theorem stands_of_mirrorOf (ended : (mirrorOf id).outcome machine = (.ok object, after)) :
    after.Stands (.mirror id) object := by
  have kept : after.area.kept? (.mirror id) = some object := kept_of_objectOf ended
  exact stands_of_kept kept

theorem stands_of_map_mirrorOf
    (ended : (some <$> mirrorOf id).outcome machine = (.ok target, after)) :
    ∃ mirror, target = some mirror ∧ after.Stands (.mirror id) mirror := by
  rw [map_eq_pure_bind] at ended
  rcases Action.bind_ok ended with ⟨mirror, last, made, given⟩
  cases given
  exact ⟨mirror, rfl, stands_of_mirrorOf made⟩

/-! ## One class -/

theorem showsAny_of_mirrorOf? {owner : Option ClassId}
    (ended : (mirrorOf? owner).outcome machine = (.ok target, after)) :
    after.ShowsAny owner target := by
  cases owner with
  | none =>
    cases ended
    exact .none
  | some id =>
    rcases stands_of_map_mirrorOf ended with ⟨mirror, rfl, stands⟩
    exact .some stands

theorem showsAny_of_superclass (ended : (superclass id).outcome machine = (.ok target, after)) :
    ∃ loaded, machine.area.class? id = some loaded ∧ after.ShowsAny loaded.superclass target := by
  rcases found_of_getClass ended with ⟨loaded, found, rest⟩
  exact ⟨loaded, found, showsAny_of_mirrorOf? rest⟩

theorem showsAny_of_componentType
    (ended : (componentType id).outcome machine = (.ok target, after)) :
    ∃ loaded, machine.area.class? id = some loaded ∧ after.ShowsAny loaded.component target := by
  rcases found_of_getClass ended with ⟨loaded, found, rest⟩
  exact ⟨loaded, found, showsAny_of_mirrorOf? rest⟩

/-- The declaring class is the one that the loader of the member finds under its name. -/
theorem stands_of_declaringClass
    (ended : (declaringClass id).outcome machine = (.ok target, after)) :
    ∃ loaded, machine.area.class? id = some loaded ∧ Option.Rel (fun name mirror =>
      ∃ owner, after.area.lookup? id.loader name = some owner ∧
        after.Stands (.mirror owner) mirror) loaded.declaringName? target := by
  rcases found_of_getClass ended with ⟨loaded, found, rest⟩
  refine ⟨loaded, found, ?_⟩
  cases named : loaded.declaringName? with
  | none =>
    rw [named] at rest
    cases rest
    exact .none
  | some name =>
    rw [named] at rest
    dsimp only at rest
    rw [map_eq_pure_bind] at rest
    rcases Action.bind_ok rest with ⟨mirror, last, asked, given⟩
    cases given
    rcases Action.bind_ok asked with ⟨owner, middle, loads, made⟩
    have retains := requesting_retains.mirrorOf owner middle
    rw [made] at retains
    exact .some ⟨owner, retains.answer (Area.lookup?_of_load (area_load_of_load loads)),
      stands_of_mirrorOf made⟩

/-! ## Arrays of classes -/

theorem shows_of_mirrorsOf {ids : List ClassId} {targets : List Reference}
    (ended : (mirrorsOf ids).outcome machine = (.ok targets, after)) :
    List.Forall₂ after.Shows ids targets := by
  induction ids generalizing machine targets with
  | nil =>
    cases ended
    exact .nil
  | cons first rest inductiveStep =>
    rcases Action.bind_ok ended with ⟨mirror, middle, made, others⟩
    rcases Action.bind_ok others with ⟨mirrors, last, mirrored, given⟩
    cases given
    have becomes := (handing_becomes.mirrorsOf rest).related mirrored
    exact .cons ⟨mirror, rfl, (stands_of_mirrorOf made).later becomes⟩ (inductiveStep mirrored)

theorem shows_of_interfaces {array : Object}
    (ended : (interfaces id).outcome machine = (.ok array, after)) :
    ∃ loaded elements, machine.area.class? id = some loaded ∧ array.elements? = some elements ∧
      List.Forall₂ after.Shows loaded.interfaces elements := by
  rcases found_of_getClass ended with ⟨loaded, found, rest⟩
  rcases Action.bind_ok rest with ⟨mirrors, middle, mirrored, makes⟩
  rcases Action.bind_ok makes with ⟨component, last, loads, made⟩
  have becomes := trans_of Becomes ((handing_becomes.load _ _).related loads)
    ((handing_becomes.makeArray _ _).related made)
  refine ⟨loaded, mirrors, found, (load_of_makeArray made).1, ?_⟩
  refine (shows_of_mirrorsOf mirrored).imp ?_
  rintro id target ⟨mirror, rfl, stands⟩
  exact ⟨mirror, rfl, stands.later becomes⟩

/-- The enclosing class is loaded before the texts are made, and its mirror is made last. -/
theorem stands_of_enclosingMethod
    (ended : (enclosingMethod id).outcome machine = (.ok target, after)) :
    ∃ loaded, machine.area.class? id = some loaded ∧ Option.Rel (fun enclosure array =>
      ∃ owner mirror name descriptor, after.area.lookup? id.loader enclosure.owner = some owner ∧
        array.elements? = some [some mirror, name, descriptor] ∧
        after.Stands (.mirror owner) mirror) loaded.enclosure target := by
  rcases found_of_getClass ended with ⟨loaded, found, rest⟩
  refine ⟨loaded, found, ?_⟩
  cases enclosed : loaded.enclosure with
  | none =>
    rw [enclosed] at rest
    cases rest
    exact .none
  | some enclosure =>
    rw [enclosed] at rest
    rcases Action.bind_ok rest with ⟨owner, first, loads, rest⟩
    rcases Action.bind_ok rest with ⟨⟨name, descriptor⟩, second, texts, rest⟩
    rcases Action.bind_ok rest with ⟨component, third, root, rest⟩
    rcases Action.bind_ok rest with ⟨mirror, fourth, made, rest⟩
    rw [map_eq_pure_bind] at rest
    rcases Action.bind_ok rest with ⟨array, last, arrayed, given⟩
    cases given
    have onward : fourth.Becomes after := (handing_becomes.makeArray _ _).related arrayed
    have becomes : first.Becomes after :=
      trans_of Becomes ((handing_becomes.methodTexts _).related texts)
        (trans_of Becomes ((handing_becomes.load _ _).related root)
          (trans_of Becomes ((handing_becomes.mirrorOf _).related made) onward))
    exact .some ⟨owner, mirror, name, descriptor,
      becomes.retains.answer (Area.lookup?_of_load (area_load_of_load loads)),
      (load_of_makeArray arrayed).1, (stands_of_mirrorOf made).later onward⟩

end Machine
end ClassRuntime

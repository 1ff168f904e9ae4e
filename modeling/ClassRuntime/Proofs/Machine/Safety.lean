import ClassRuntime.Proofs.Machine.Questions

namespace ClassRuntime

/-!
# Requests about existing classes

A request whose classes exist does not meet a dangling handle and does not use up
its limits, provided that the area is well formed.  If it fails, it is with an
error of the runtime.  The classes that a request comes across on its way exist as
well: it has been told of them by classes that exist, or it has just loaded them.
What has been loaded stays, so they exist to the end of the request.

Names that a loader has answered before are loaded again in any case, even if
loaders have been added that spoil the area.
-/

namespace Fault

/-- The fault is an error of the runtime. -/
def IsError (fault : Fault) : Prop :=
  ∃ cause, fault = .error cause

/-- The fault is a handle that has not been given out. -/
def dangles : Fault → Bool
  | .danglingLoader _ => true
  | .danglingClass _ => true
  | _ => false

theorem IsError.not_dangles {fault : Fault} (error : fault.IsError) : fault.dangles = false := by
  rcases error with ⟨cause, rfl⟩
  rfl

end Fault

namespace Area

variable {ι : Type} {area : Area ι} {id : ClassId}

theorem isSome_loader? (known : (area.class? id).isSome) : (area.loader? id.loader).isSome := by
  rcases Option.isSome_iff_exists.1 known with ⟨loaded, found⟩
  rcases Option.bind_eq_some_iff.1 found with ⟨loader, present, _⟩
  exact Option.isSome_iff_exists.2 ⟨loader, present⟩

/-- Whatever a class refers to exists. -/
theorem WellFormed.isSome_reference (fine : area.WellFormed) {loaded : LoadedClass ι}
    (found : area.class? id = some loaded) {other : ClassId}
    (member : other ∈ loaded.references) : (area.class? other).isSome :=
  ((fine.linked (type?_of_class? found)).references_earlier other member).2

/-- To look up a class that does not exist is to meet a dangling handle. -/
theorem loadedClass_of_unknown (unknown : area.class? id = none) :
    ∃ fault, area.loadedClass id = .error fault ∧ fault.dangles := by
  rw [loadedClass]
  cases known : area.loader? id.loader with
  | none =>
    rw [loader_eq_error known]
    exact ⟨_, rfl, rfl⟩
  | some loader =>
    rw [class?_eq known] at unknown
    rw [loader_eq_ok known]
    simp only [bind, Except.bind, unknown]
    exact ⟨_, rfl, rfl⟩

end Area

namespace Machine

variable {ι α : Type} {machine middle after : Machine ι} {id : ClassId}

/-- What has been loaded stays, and the area remains well formed. -/
structure Upholds (before after : Machine ι) : Prop where
  retains : before.Retains after
  grounded : before.area.StaysGrounded after.area
  wellFormed : before.area.WellFormed → after.area.WellFormed

/-- Nothing but counters and numbers has changed. -/
theorem Upholds.of_area (same : middle.area = machine.area) : machine.Upholds middle where
  retains := by
    unfold Retains
    rw [same]
    exact refl_of Area.Retains machine.area
  grounded grounded := same ▸ grounded
  wellFormed fine := same ▸ fine

instance : IsPreorder (Machine ι) Upholds where
  refl _ := .of_area rfl
  trans _ _ _ first second := ⟨trans_of Retains first.retains second.retains,
    fun grounded => second.grounded (first.grounded grounded),
    fun fine => second.wellFormed (first.wellFormed fine)⟩

theorem Upholds.isSome (upholds : machine.Upholds middle)
    (known : (machine.area.class? id).isSome) : (middle.area.class? id).isSome :=
  Area.Retains.isSome upholds.retains known

/-- The name can be loaded through the loader: the loader is one of a well-formed
area, or it has answered the name before. -/
def Loads (machine : Machine ι) (home : LoaderId) (name : ClassName) : Prop :=
  machine.area.WellFormed ∧ (machine.area.loader? home).isSome ∨
    machine.area.Grounded ∧ (machine.area.lookup? home name).isSome

/-- Put to the machine, the action fails with errors of the runtime alone. -/
abbrev Sound (machine : Machine ι) (action : Action (Machine ι) α)
    (post : α → Machine ι → Prop) : Prop :=
  action.Sound Upholds Fault.IsError machine post

theorem sound_fail {post : α → Machine ι → Prop} (cause : RuntimeError) :
    machine.Sound (Action.fail cause) post :=
  .throw ⟨cause, rfl⟩

/-! ## Looking things up and loading them -/

theorem sound_getClass (known : (machine.area.class? id).isSome) :
    machine.Sound (getClass id) fun loaded after => after.area.class? id = some loaded := by
  rcases Option.isSome_iff_exists.1 known with ⟨loaded, found⟩
  have ended : (getClass id).outcome machine = (.ok loaded, machine) := by
    rw [outcome_getClass, Area.loadedClass_eq_ok found]
  exact .of_ok ended (refl_of Upholds machine) found

theorem sound_getLoader {home : LoaderId} (known : (machine.area.loader? home).isSome) :
    machine.Sound (onArea (Area.getLoader home)) fun _ after =>
      (after.area.loader? home).isSome := by
  rcases Option.isSome_iff_exists.1 known with ⟨loader, present⟩
  have ended : (onArea (Area.getLoader home)).outcome machine = (.ok loader, machine) := by
    rw [outcome_getLoader, Area.loader_eq_ok present]
  exact .of_ok ended (refl_of Upholds machine) known

section Loads

variable {home : LoaderId} {name : ClassName}

theorem Loads.later (loads : machine.Loads home name) (upholds : machine.Upholds middle) :
    middle.Loads home name := by
  rcases loads with ⟨fine, known⟩ | ⟨grounded, answered⟩
  · exact Or.inl ⟨upholds.wellFormed fine, upholds.retains.loader known⟩
  · rcases Option.isSome_iff_exists.1 answered with ⟨found, answer⟩
    exact Or.inr ⟨upholds.grounded grounded,
      Option.isSome_iff_exists.2 ⟨found, upholds.retains.answer answer⟩⟩

theorem Loads.isSome_loader? (loads : machine.Loads home name) :
    (machine.area.loader? home).isSome := by
  rcases loads with ⟨_, known⟩ | ⟨_, answered⟩
  · exact known
  · exact Option.isSome_of_isSome_bind answered

theorem loads_boot (fine : machine.area.WellFormed) (name : ClassName) :
    machine.Loads .bootstrap name :=
  Or.inl ⟨fine, fine.rooted⟩

/-- Classes that are mentioned by a class are loaded through its own loader. -/
theorem loads_home (fine : machine.area.WellFormed) (known : (machine.area.class? id).isSome)
    (name : ClassName) : machine.Loads id.loader name :=
  Or.inl ⟨fine, Area.isSome_loader? known⟩

theorem outcome_load_answered {found : ClassId}
    (answered : machine.area.lookup? home name = some found) :
    (load home name).outcome machine = (.ok found, machine) := by
  rw [outcome_load, Area.outcome_load_answered answered]

theorem sound_load (loads : machine.Loads home name) :
    machine.Sound (load home name) fun found after => (after.area.class? found).isSome := by
  rcases loads with ⟨fine, known⟩ | ⟨grounded, answered⟩
  · have safe := Area.safe_load name fine known
    constructor
    · exact ⟨requesting_retains.load home name machine,
        spans_staysGrounded.requesting.load home name machine,
        fun fine => Area.wellFormed_load fine home name⟩
    · exact safe.cause
    · intro found ended
      exact safe.wellFormed.grounded.answered (safe.result found ended)
  · rcases Option.isSome_iff_exists.1 answered with ⟨found, answer⟩
    exact .of_ok (outcome_load_answered answer) (refl_of Upholds machine) (grounded.answered answer)

end Loads

theorem sound_boot (fine : machine.area.WellFormed) (name : ClassName) :
    machine.Sound (load .bootstrap name) fun found after => (after.area.class? found).isSome :=
  sound_load (loads_boot fine name)

theorem sound_loadFor (fine : machine.area.WellFormed) (known : (machine.area.class? id).isSome)
    (name : ClassName) :
    machine.Sound (load id.loader name) fun found after => (after.area.class? found).isSome :=
  sound_load (loads_home fine known name)

/-! ## Making objects -/

theorem sound_makeObject (make : ObjectId → Object) :
    machine.Sound (makeObject make) fun _ _ => True :=
  .of_within (fun _ => .of_area rfl) (fun _ impossible => by cases impossible)

theorem sound_makeMirror (id type : ClassId) :
    machine.Sound (makeMirror id type) fun _ _ => True :=
  .of_within (fun before => ⟨requesting_retains.makeMirror id type before,
    spans_staysGrounded.requesting.makeMirror id type before,
    fun fine => Area.wellFormed_updateClass fine id fun _ => rfl⟩)
    (fun _ impossible => by cases impossible)

theorem sound_makePool (id type : ClassId) :
    machine.Sound (makePool id type) fun _ _ => True :=
  .of_within (fun before => ⟨requesting_retains.makePool id type before,
    spans_staysGrounded.requesting.makePool id type before,
    fun fine => Area.wellFormed_updateClass fine id fun _ => rfl⟩)
    (fun _ impossible => by cases impossible)

theorem sound_makeHandle (home : LoaderId) (type : ClassId) :
    machine.Sound (makeHandle home type) fun _ _ => True :=
  .of_within (fun before => ⟨requesting_retains.makeHandle home type before,
    spans_staysGrounded.requesting.makeHandle home type before,
    fun fine => Area.wellFormed_hand fine home _⟩)
    (fun _ impossible => by cases impossible)

theorem sound_makeText (fine : machine.area.WellFormed) (content : String) :
    machine.Sound (makeText content) fun _ _ => True :=
  (sound_boot fine .string).bind fun _ _ _ _ => sound_makeObject _

theorem sound_makeArray (fine : machine.area.WellFormed)
    (known : (machine.area.class? id).isSome) (elements : List Reference) :
    machine.Sound (makeArray id elements) fun _ _ => True :=
  (sound_getClass known).bind fun _ _ upholds _ =>
    (sound_loadFor (upholds.wellFormed fine) (upholds.isSome known) _).bind fun _ _ _ _ =>
      sound_makeObject _

theorem sound_mirrorOf (fine : machine.area.WellFormed) (known : (machine.area.class? id).isSome) :
    machine.Sound (mirrorOf id) fun _ _ => True := by
  refine (sound_getClass known).bind fun loaded middle upholds _ => ?_
  split
  · exact .pure trivial
  · exact (sound_boot (upholds.wellFormed fine) .mirror).bind fun type _ _ _ =>
      sound_makeMirror id type

theorem sound_poolOf (loads : machine.Loads .bootstrap .constantPool)
    (known : (machine.area.class? id).isSome) :
    machine.Sound (poolOf id) fun _ _ => True := by
  refine (sound_getClass known).bind fun loaded middle upholds _ => ?_
  split
  · exact .pure trivial
  · exact (sound_load (loads.later upholds)).bind fun type _ _ _ => sound_makePool id type

theorem sound_handleOf {home : LoaderId} (loads : machine.Loads home .loaderHandle) :
    machine.Sound (handleOf home) fun _ _ => True := by
  refine (sound_getLoader loads.isSome_loader?).bind fun loader middle upholds _ => ?_
  split
  · exact .pure trivial
  · exact (sound_load (loads.later upholds)).bind fun type _ _ _ => sound_makeHandle home type

/-! ## Reflection -/

theorem sound_mirrorOf? (fine : machine.area.WellFormed) {id? : Option ClassId}
    (known : ∀ id ∈ id?, (machine.area.class? id).isSome) :
    machine.Sound (mirrorOf? id?) fun _ _ => True := by
  cases id? with
  | none => exact .pure trivial
  | some id => exact .map some (sound_mirrorOf fine (known id rfl))

theorem sound_mirrorsOf (fine : machine.area.WellFormed) {ids : List ClassId}
    (known : ∀ id ∈ ids, (machine.area.class? id).isSome) :
    machine.Sound (mirrorsOf ids) fun _ _ => True := by
  induction ids generalizing machine with
  | nil => exact .pure trivial
  | cons first rest inductiveStep =>
    refine (sound_mirrorOf fine (known first List.mem_cons_self)).bind fun _ middle upholds _ => ?_
    exact (inductiveStep (upholds.wellFormed fine) fun id member =>
      upholds.isSome (known id (List.mem_cons_of_mem first member))).bind fun _ _ _ _ =>
        .pure trivial

theorem sound_classLoader (loads : machine.Loads id.loader .loaderHandle)
    (known : (machine.area.class? id).isSome) :
    machine.Sound (classLoader id) fun _ _ => True := by
  refine (sound_getClass known).bind fun loaded middle upholds _ => ?_
  split
  · exact .pure trivial
  · exact .map some (sound_handleOf (loads.later upholds))

/-- A question about a class to which the class in question refers. -/
theorem sound_reference (refer : TypeDescriptor → Option ClassId) (fine : machine.area.WellFormed)
    (known : (machine.area.class? id).isSome)
    (refers : ∀ type, ∀ other ∈ refer type, other ∈ type.references) :
    machine.Sound (do mirrorOf? (refer (← getClass id).toTypeDescriptor)) fun _ _ => True :=
  (sound_getClass known).bind fun loaded _ upholds found =>
    sound_mirrorOf? (upholds.wellFormed fine) fun other member =>
      (upholds.wellFormed fine).isSome_reference found (refers loaded.toTypeDescriptor other member)

theorem sound_componentType (fine : machine.area.WellFormed)
    (known : (machine.area.class? id).isSome) :
    machine.Sound (componentType id) fun _ _ => True :=
  sound_reference (fun type => type.component) fine known fun _ _ member =>
    List.mem_append_right _ (Option.mem_toList.2 member)

theorem sound_superclass (fine : machine.area.WellFormed)
    (known : (machine.area.class? id).isSome) :
    machine.Sound (superclass id) fun _ _ => True :=
  sound_reference (fun type => type.superclass) fine known fun _ _ member =>
    List.mem_append_left _ (List.mem_append_left _ (Option.mem_toList.2 member))

theorem sound_interfaces (fine : machine.area.WellFormed)
    (known : (machine.area.class? id).isSome) :
    machine.Sound (interfaces id) fun _ _ => True := by
  refine (sound_getClass known).bind fun loaded first upholds found => ?_
  have fine := upholds.wellFormed fine
  have exist (other : ClassId) (member : other ∈ loaded.interfaces) :
      (first.area.class? other).isSome :=
    fine.isSome_reference found (List.mem_append_left _ (List.mem_append_right _ member))
  refine (sound_mirrorsOf fine exist).bind fun mirrors second upholds _ => ?_
  have fine := upholds.wellFormed fine
  exact (sound_boot fine .mirror).bind fun component _ upholds present =>
    sound_makeArray (upholds.wellFormed fine) present mirrors

theorem sound_declaringClass (fine : machine.area.WellFormed)
    (known : (machine.area.class? id).isSome) :
    machine.Sound (declaringClass id) fun _ _ => True := by
  refine (sound_getClass known).bind fun loaded middle upholds _ => ?_
  have fine := upholds.wellFormed fine
  split
  next owner _ =>
    exact .map some ((sound_loadFor fine (upholds.isSome known) owner).bind
      fun _ _ upholds present => sound_mirrorOf (upholds.wellFormed fine) present)
  next => exact .pure trivial

theorem sound_methodTexts (fine : machine.area.WellFormed) (method : Option MethodReference) :
    machine.Sound (methodTexts method) fun _ _ => True := by
  cases method with
  | none => exact .pure trivial
  | some reference =>
    exact (sound_makeText fine reference.name).bind fun _ _ upholds _ =>
      (sound_makeText (upholds.wellFormed fine) reference.descriptor).bind fun _ _ _ _ =>
        .pure trivial

theorem sound_enclosingMethod (fine : machine.area.WellFormed)
    (known : (machine.area.class? id).isSome) :
    machine.Sound (enclosingMethod id) fun _ _ => True := by
  refine (sound_getClass known).bind fun loaded first upholds _ => ?_
  have fine := upholds.wellFormed fine
  split
  · exact .pure trivial
  next enclosure _ =>
    refine (sound_loadFor fine (upholds.isSome known) enclosure.owner).bind
      fun owner second upholds ownerThere => ?_
    have fine := upholds.wellFormed fine
    refine (sound_methodTexts fine enclosure.method).bind fun texts third upholds _ => ?_
    have fine := upholds.wellFormed fine
    have ownerThere := upholds.isSome ownerThere
    refine (sound_boot fine .object).bind fun component fourth upholds componentThere => ?_
    have fine := upholds.wellFormed fine
    refine (sound_mirrorOf fine (upholds.isSome ownerThere)).bind fun mirror last upholds _ => ?_
    exact .map some (sound_makeArray (upholds.wellFormed fine) (upholds.isSome componentThere) _)

theorem sound_nameText (fine : machine.area.WellFormed)
    (known : (machine.area.class? id).isSome) :
    machine.Sound (nameText id) fun _ _ => True :=
  (sound_getClass known).bind fun _ _ upholds _ => sound_makeText (upholds.wellFormed fine) _

/-! ## Questions of assignability -/

/-- Assignability comes to an answer for all classes that exist. -/
theorem sound_isAssignable (fine : machine.area.WellFormed) {source target : ClassId}
    (known : (machine.area.class? source).isSome)
    (knownTarget : (machine.area.class? target).isSome) :
    machine.Sound (isAssignable source target) fun _ _ => True := by
  cases cached : machine.assignability.find? (source, target) with
  | some answer => exact .of_ok (outcome_isAssignable_known cached) (.of_area rfl) trivial
  | none =>
    have proper : Question.Proper ⟨machine, source, target⟩ := ⟨known, knownTarget⟩
    rcases proper.decided fine.grounded with ⟨answer, decided⟩
    exact .of_ok (outcome_isAssignable_new cached decided) (.of_area rfl) trivial

/-- A class that does not exist is looked up as soon as it is compared with one that
does. -/
theorem isAssignable_of_unknown (honest : machine.Honest) {source target : ClassId}
    (unknown : machine.area.class? source = none)
    (knownTarget : (machine.area.class? target).isSome) :
    ∃ fault after, (isAssignable source target).outcome machine = (.error fault, after) ∧
      fault.dangles := by
  rcases Area.loadedClass_of_unknown unknown with ⟨fault, read, dangles⟩
  have different : source ≠ target := by
    rintro rfl
    rw [unknown] at knownTarget
    cases knownTarget
  have failed : machine.area.graph.assignable source target = .error fault := by
    rw [ClassGraph.assignable, ClassGraph.assignableWithin, if_neg different]
    simp only [Area.graph, read]
    rfl
  cases cached : machine.assignability.find? (source, target) with
  | some answer =>
    rw [honest source target answer cached] at failed
    cases failed
  | none => exact ⟨fault, _, outcome_isAssignable_fault cached failed, dangles⟩

end Machine
end ClassRuntime

import ClassRuntime.Proofs.Loader.Enrollment
import ClassRuntime.Proofs.Machine.Reachability

namespace ClassRuntime

/-!
# Names as users write them

A user may write a name with slashes, with dots, or with both, and each spelling leads
to the same class.  The keywords of the primitive types take a way of their own, which
no other spelling can take.

A class is reported with dots.  Read back by the loader of the class, this spelling
leads to the class itself, unless the class has been given a name with a dot in it.
Nothing is loaded on the way, since every loader knows its own classes.
-/

namespace ClassName

variable {name other : ClassName}

/-! ## Spellings -/

theorem toList_exchange (old new : Char) (text : String) :
    (exchange old new text).toList =
      text.toList.map fun character => if character = old then new else character := by
  rw [exchange, String.toList_ofList]

theorem exchange_of_notMem {old : Char} (new : Char) {text : String} (absent : old ∉ text.toList) :
    exchange old new text = text := by
  rw [← String.toList_inj, toList_exchange]
  refine (List.map_congr_left fun character member => if_neg ?_).trans (List.map_id _)
  rintro rfl
  exact absent member

/-- Two spellings of a name differ in nothing but dots and slashes. -/
theorem internal_exchange {old new : Char} (dots : old = '.' ∨ old = '/')
    (slashes : new = '.' ∨ new = '/') (name : ClassName) :
    internal (exchange old new name) = internal name := by
  rw [← String.toList_inj, internal, internal, toList_exchange, toList_exchange, toList_exchange,
    List.map_map]
  refine List.map_congr_left fun character _ => ?_
  simp only [Function.comp_apply]
  split
  next same =>
    rcases dots with rfl | rfl <;> rcases slashes with rfl | rfl <;> rw [same] <;> decide
  next => rfl

theorem internal_internal (name : ClassName) : name.internal.internal = name.internal :=
  internal_exchange (Or.inl rfl) (Or.inr rfl) name

theorem internal_binary (name : ClassName) : name.binary.internal = name.internal :=
  internal_exchange (Or.inr rfl) (Or.inl rfl) name

theorem internal_of_undotted (undotted : '.' ∉ name.toList) : name.internal = name :=
  exchange_of_notMem '/' undotted

/-- A keyword has no other spelling. -/
theorem eq_of_internal_eq (keyword : name.isPrimitive) (same : name.internal = other.internal) :
    name = other := by
  have plain : '.' ∉ name.toList ∧ '/' ∉ name.toList := by
    rcases isPrimitive_iff.1 keyword with ⟨primitive, rfl⟩
    cases primitive with
    | void => decide
    | value type => cases type <;> decide
  rw [internal_of_undotted plain.1] at same
  rw [same, internal_of_undotted]
  intro dotted
  refine plain.2 ?_
  rw [same, internal, toList_exchange]
  exact List.mem_map.2 ⟨'.', dotted, if_pos rfl⟩

end ClassName

namespace Area

variable {ι : Type} {area : Area ι} {id : ClassId} {type : TypeDescriptor} {name other : String}

/-! ## Resolving -/

theorem primitiveClass?_of_isPrimitive (keyword : ClassName.isPrimitive name) :
    area.primitiveClass? name = area.lookup? .bootstrap name :=
  if_pos keyword

theorem primitiveClass?_of_not_isPrimitive (ordinary : ¬ ClassName.isPrimitive name) :
    area.primitiveClass? name = none :=
  if_neg ordinary

/-- All spellings of a name are resolved alike. -/
theorem resolve_congr (same : ClassName.internal name = ClassName.internal other)
    (id : LoaderId) :
    (resolve id name : Action (Area ι) ClassId) = resolve id other := by
  by_cases keyword : ClassName.isPrimitive name ∨ ClassName.isPrimitive other
  · rcases keyword with first | second
    · rw [ClassName.eq_of_internal_eq first same]
    · rw [ClassName.eq_of_internal_eq second same.symm]
  · rw [not_or] at keyword
    simp only [resolve, primitiveClass?_of_not_isPrimitive keyword.1,
      primitiveClass?_of_not_isPrimitive keyword.2, same]

/-- A loader resolves the name of each of its classes as it has been reported. -/
theorem Registered.outcome_resolve (registered : area.Registered)
    (typed : area.type? id = some type) (undotted : '.' ∉ type.name.toList) :
    (resolve id.loader type.binaryName).outcome area = (.ok id, area) := by
  have recorded := registered.recorded typed
  rw [TypeDescriptor.binaryName, resolve_congr (ClassName.internal_binary type.name), resolve,
    Action.outcome_bind, Action.outcome_get]
  by_cases keyword : type.name.isPrimitive
  · rw [registered.reserved typed keyword] at recorded
    simp only [primitiveClass?_of_isPrimitive keyword, recorded, Action.outcome_pure]
  · simp only [primitiveClass?_of_not_isPrimitive keyword,
      ClassName.internal_of_undotted undotted, outcome_load_answered recorded]

end Area

namespace Machine

variable {ι : Type} {machine after : Machine ι} {id : ClassId}

theorem spans_staysRegistered : Spans (Area.StaysRegistered : Area ι → Area ι → Prop) where
  addLoader := Area.staysRegistered_addLoader
  addDefinition := Area.staysRegistered_addDefinition
  load := Area.staysRegistered_load
  progress area id _ registered :=
    registered.of_resembles (Area.resembles_updateClass area id fun _ => rfl)
  mirror area id _ _ registered :=
    registered.of_resembles (Area.resembles_updateClass area id fun _ => rfl)
  pool area id _ registered :=
    registered.of_resembles (Area.resembles_updateClass area id fun _ => rfl)
  handle area id handle registered :=
    registered.of_resembles (Area.resembles_hand area id (some handle))

theorem Reachable.registered (reachable : machine.Reachable) : machine.area.Registered := by
  rcases reachable with ⟨number, definitions, becomes⟩
  exact becomes.area spans_staysRegistered (Area.registered_initial definitions)

/-- The name of a class is reported with dots. -/
theorem content?_of_nameText {text : Object}
    (ended : (nameText id).outcome machine = (.ok text, after)) :
    ∃ loaded, machine.area.class? id = some loaded ∧ text.content? = some loaded.binaryName := by
  rcases found_of_getClass ended with ⟨loaded, found, rest⟩
  rcases Action.bind_ok rest with ⟨type, middle, _, made⟩
  cases made
  exact ⟨loaded, found, rfl⟩

/-- In any machine, it makes no difference whether a name is written with slashes or
with dots.  In a reachable one, the name that is reported for a class is resolved to
the class by its own loader, and this changes nothing. -/
theorem names_agree (machine : Machine ι) :
    (∀ (loader : LoaderId) (name : String),
      (resolve loader (ClassName.internal name)).outcome machine =
        (resolve loader name).outcome machine ∧
      (resolve loader (ClassName.binary name)).outcome machine =
        (resolve loader name).outcome machine) ∧
    (machine.Reachable → ∀ (id : ClassId) (loaded : LoadedClass ι),
      machine.area.class? id = some loaded → '.' ∉ loaded.name.toList →
        (resolve id.loader loaded.binaryName).outcome machine = (.ok id, machine) ∧
        ∀ text after, (nameText id).outcome machine = (.ok text, after) →
          text.content? = some loaded.binaryName) := by
  refine ⟨fun loader name => ⟨?_, ?_⟩, fun reachable id loaded found undotted => ⟨?_, ?_⟩⟩
  · rw [resolve, Area.resolve_congr (ClassName.internal_internal name), resolve]
  · rw [resolve, Area.resolve_congr (ClassName.internal_binary name), resolve]
  · rw [resolve, onArea, Action.outcome_within]
    have resolved := reachable.registered.outcome_resolve (Area.type?_of_class? found) undotted
    rw [areaPart, resolved]
  · intro text after ended
    rcases content?_of_nameText ended with ⟨same, here, content⟩
    cases found.symm.trans here
    exact content

/-- The case of an array of a class that a loader has defined itself. -/
theorem names_agree_array :
    let root : ClassDefinition Unit := { ClassDefinition.ordinary .object with superName := none }
    let empty := ((Request.addLoader "user" .bootPath none).perform.outcome
      (.initial 0 [root, .interface .cloneable, .interface .serializable])).2
    let given := ((Request.addDefinition ⟨1⟩ (.ordinary "com/example/Config")).perform.outcome
      empty).2
    let machine := ((load ⟨1⟩ "[Lcom/example/Config;").outcome given).2
    machine.Reachable ∧
      (resolve ⟨1⟩ "[Lcom.example.Config;").outcome machine = (.ok ⟨⟨1⟩, 1⟩, machine) ∧
      ((resolve ⟨1⟩ "[Lcom.example/Config;").outcome machine).1 = .ok ⟨⟨1⟩, 1⟩ := by
  intro root empty given machine
  have reachable : machine.Reachable :=
    (((reachable_initial 0 _).perform (.addLoader "user" .bootPath none)).perform
      (.addDefinition ⟨1⟩ (.ordinary "com/example/Config"))).perform
        (.load ⟨1⟩ "[Lcom/example/Config;")
  have stored : (machine.area.class? ⟨⟨1⟩, 1⟩).map (fun loaded => loaded.name) =
      some "[Lcom/example/Config;" := by decide +kernel
  rcases Option.map_eq_some_iff.1 stored with ⟨loaded, found, named⟩
  have agree := names_agree machine
  have reported : loaded.binaryName = "[Lcom.example.Config;" := by
    rw [TypeDescriptor.binaryName, named]
    decide
  have resolved := (agree.2 reachable _ loaded found (by rw [named]; decide)).1
  rw [reported] at resolved
  refine ⟨reachable, resolved, ?_⟩
  have spelled := (agree.1 ⟨1⟩ "[Lcom.example/Config;").2
  rw [show ClassName.binary "[Lcom.example/Config;" = "[Lcom.example.Config;" by decide,
    resolved] at spelled
  rw [← spelled]

end Machine
end ClassRuntime

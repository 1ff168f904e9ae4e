import ClassRuntime.Proofs.Loader.Views

namespace ClassRuntime

/-!
# Resolution without history

What comes of loading a class depends on parents and definitions alone.  The
relation of this file says so by construction: it answers a request with the
loader that defines the class or with an error, follows the same ways as
loading does, and knows nothing of classes that are already there.

Circularity is the one thing that depends on where a request comes from.  A
request therefore carries the names that its own loader is linking.  It need
not know those that other loaders are linking: a request only moves to the
parent or to the bootstrap loader, which are not linking anything on behalf of
loaders below.
-/

/-- A class that is needed, and the kind that it has to be of. -/
structure Demand where
  kind : Option Kind
  name : ClassName

/-- The classes of the bootstrap loader on which arrays rest. -/
def Demand.basics : List Demand :=
  [⟨none, .object⟩, ⟨none, .cloneable⟩, ⟨none, .serializable⟩]

/-- The demand for a direct superclass. -/
def Demand.superclass (name : ClassName) : Demand := ⟨some .ordinary, name⟩

/-- The demand for a direct interface. -/
def Demand.interface (name : ClassName) : Demand := ⟨some .interface, name⟩

/-- The classes that linking a definition needs, the superclass first. -/
def ClassDefinition.demands {ι : Type} (definition : ClassDefinition ι) : List Demand :=
  definition.inheritedName?.toList.map .superclass ++ definition.interfaces.map .interface

namespace Area

variable {ι : Type} {base other : Area ι}

/-- The defining loader, or why there is none. -/
abbrev Answer := Except RuntimeError LoaderId

/-- What can be requested.  The marks are the names that the loader is linking. -/
inductive Goal where
  | load (marks : List ClassName) (id : LoaderId) (name : ClassName)
  /-- The parent has given its answer. -/
  | orDefine (marks : List ClassName) (id : LoaderId) (name : ClassName) (asked : Answer)
  | define (marks : List ClassName) (id : LoaderId) (name : ClassName)
  /-- Meet the demands of a class one after the other.  Its home is the answer
  if all of them are met. -/
  | meet (marks : List ClassName) (id : LoaderId) (owner : ClassName) (home : LoaderId)
      (demands : List Demand)

/-- The kind of the class of the given name that the loader defines. -/
def kindOf (base : Area ι) (id : LoaderId) (name : ClassName) : Kind :=
  if name.isArray then .array
  else if id = .bootstrap ∧ name.isPrimitive then .primitive
  else ((base.definition? id name).map ClassDefinition.kind).getD .ordinary

/-- The answer to a request. -/
inductive Resolves (base : Area ι) : Goal → Answer → Prop
  | primitive {marks : List ClassName} {name : ClassName} :
      name.isPrimitive → Resolves base (.load marks .bootstrap name) (.ok .bootstrap)
  | malformed {marks : List ClassName} {id : LoaderId} {name : ClassName} :
      name.isArray → name.component? = none →
        Resolves base (.load marks id name) (.error (.classNotFound name))
  | componentFails {marks : List ClassName} {id : LoaderId} {name component : ClassName}
      {cause : RuntimeError} : name.isArray → name.component? = some component →
        Resolves base (.load marks id component) (.error cause) →
          Resolves base (.load marks id name) (.error cause)
  | array {marks : List ClassName} {id home : LoaderId} {name component : ClassName}
      {answer : Answer} : name.isArray → name.component? = some component →
        Resolves base (.load marks id component) (.ok home) →
        Resolves base (.meet (if id = .bootstrap then marks else []) .bootstrap name home
          Demand.basics) answer →
          Resolves base (.load marks id name) answer
  | top {marks : List ClassName} {id : LoaderId} {name : ClassName} {answer : Answer} :
      ¬ name.isArray → ¬ (id = .bootstrap ∧ name.isPrimitive) → base.parent? id = none →
        Resolves base (.define marks id name) answer →
          Resolves base (.load marks id name) answer
  | parentFirst {marks : List ClassName} {id parent : LoaderId} {name : ClassName}
      {asked answer : Answer} : ¬ name.isArray → base.parent? id = some parent →
        Resolves base (.load [] parent name) asked →
        Resolves base (.orDefine marks id name asked) answer →
          Resolves base (.load marks id name) answer
  | inherited {marks : List ClassName} {id home : LoaderId} {name : ClassName} :
      Resolves base (.orDefine marks id name (.ok home)) (.ok home)
  | passed {marks : List ClassName} {id : LoaderId} {name : ClassName} {cause : RuntimeError} :
      (∀ missing, cause ≠ .classNotFound missing) →
        Resolves base (.orDefine marks id name (.error cause)) (.error cause)
  | shadowed {marks : List ClassName} {id : LoaderId} {name missing : ClassName}
      {answer : Answer} : Resolves base (.define marks id name) answer →
        Resolves base (.orDefine marks id name (.error (.classNotFound missing))) answer
  | undefined {marks : List ClassName} {id : LoaderId} {name : ClassName} :
      base.definition? id name = none →
        Resolves base (.define marks id name) (.error (.classNotFound name))
  | circular {marks : List ClassName} {id : LoaderId} {name : ClassName}
      {definition : ClassDefinition ι} : base.definition? id name = some definition →
        name ∈ marks → Resolves base (.define marks id name) (.error (.classCircularity name))
  | linked {marks : List ClassName} {id : LoaderId} {name : ClassName}
      {definition : ClassDefinition ι} {answer : Answer} :
      base.definition? id name = some definition → name ∉ marks →
        Resolves base (.meet (name :: marks) id definition.name id definition.demands) answer →
          Resolves base (.define marks id name) answer
  | met {marks : List ClassName} {id home : LoaderId} {owner : ClassName} :
      Resolves base (.meet marks id owner home []) (.ok home)
  | failed {marks : List ClassName} {id home : LoaderId} {owner : ClassName} {first : Demand}
      {rest : List Demand} {cause : RuntimeError} :
      Resolves base (.load marks id first.name) (.error cause) →
        Resolves base (.meet marks id owner home (first :: rest)) (.error cause)
  | refused {marks : List ClassName} {id home defining : LoaderId} {owner : ClassName}
      {first : Demand} {rest : List Demand} {kind : Kind} :
      Resolves base (.load marks id first.name) (.ok defining) → first.kind = some kind →
        base.kindOf defining first.name ≠ kind →
          Resolves base (.meet marks id owner home (first :: rest))
            (.error (.incompatibleClassChange owner first.name))
  | next {marks : List ClassName} {id home defining : LoaderId} {owner : ClassName}
      {first : Demand} {rest : List Demand} {answer : Answer} :
      Resolves base (.load marks id first.name) (.ok defining) →
        (∀ kind ∈ first.kind, base.kindOf defining first.name = kind) →
        Resolves base (.meet marks id owner home rest) answer →
          Resolves base (.meet marks id owner home (first :: rest)) answer

/-! ## What an answer rests on

The form of a name, the parent and the definition tell which way a request goes. -/

section

variable {marks : List ClassName} {id : LoaderId} {name : ClassName} {answer : Answer}

theorem Resolves.of_primitive (top : base.parent? .bootstrap = none) (keyword : name.isPrimitive)
    (resolved : base.Resolves (.load marks .bootstrap name) answer) : answer = .ok .bootstrap := by
  have notArray := ClassName.not_isArray_of_isPrimitive keyword
  cases resolved with
  | primitive => rfl
  | malformed array => exact absurd array notArray
  | componentFails array => exact absurd array notArray
  | array array => exact absurd array notArray
  | top _ other => exact absurd ⟨rfl, keyword⟩ other
  | parentFirst _ below =>
    rw [top] at below
    cases below

theorem Resolves.of_malformed (array : name.isArray) (shape : name.component? = none)
    (resolved : base.Resolves (.load marks id name) answer) :
    answer = .error (.classNotFound name) := by
  cases resolved with
  | primitive keyword => exact absurd array (ClassName.not_isArray_of_isPrimitive keyword)
  | malformed => rfl
  | componentFails _ well =>
    rw [shape] at well
    cases well
  | array _ well =>
    rw [shape] at well
    cases well
  | top ordinary => exact absurd array ordinary
  | parentFirst ordinary => exact absurd array ordinary

theorem Resolves.of_array {component : ClassName} (array : name.isArray)
    (shape : name.component? = some component)
    (resolved : base.Resolves (.load marks id name) answer) :
    (∃ cause, base.Resolves (.load marks id component) (.error cause) ∧ answer = .error cause) ∨
      ∃ home, base.Resolves (.load marks id component) (.ok home) ∧
        base.Resolves (.meet (if id = .bootstrap then marks else []) .bootstrap name home
          Demand.basics) answer := by
  cases resolved with
  | primitive keyword => exact absurd array (ClassName.not_isArray_of_isPrimitive keyword)
  | malformed _ ill =>
    rw [shape] at ill
    cases ill
  | componentFails _ well failed =>
    rw [shape] at well
    cases well
    exact Or.inl ⟨_, failed, rfl⟩
  | array _ well found met =>
    rw [shape] at well
    cases well
    exact Or.inr ⟨_, found, met⟩
  | top ordinary => exact absurd array ordinary
  | parentFirst ordinary => exact absurd array ordinary

theorem Resolves.of_top (ordinary : ¬ name.isArray)
    (reference : ¬ (id = .bootstrap ∧ name.isPrimitive)) (top : base.parent? id = none)
    (resolved : base.Resolves (.load marks id name) answer) :
    base.Resolves (.define marks id name) answer := by
  cases resolved with
  | primitive keyword => exact absurd ⟨rfl, keyword⟩ reference
  | malformed array => exact absurd array ordinary
  | componentFails array => exact absurd array ordinary
  | array array => exact absurd array ordinary
  | top _ _ _ defined => exact defined
  | parentFirst _ below =>
    rw [top] at below
    cases below

theorem Resolves.of_parent {parent : LoaderId} (top : base.parent? .bootstrap = none)
    (ordinary : ¬ name.isArray) (below : base.parent? id = some parent)
    (resolved : base.Resolves (.load marks id name) answer) :
    ∃ asked, base.Resolves (.load [] parent name) asked ∧
      base.Resolves (.orDefine marks id name asked) answer := by
  cases resolved with
  | primitive =>
    rw [top] at below
    cases below
  | malformed array => exact absurd array ordinary
  | componentFails array => exact absurd array ordinary
  | array array => exact absurd array ordinary
  | top _ _ top =>
    rw [below] at top
    cases top
  | parentFirst _ belowAgain asked defined =>
    rw [below] at belowAgain
    cases belowAgain
    exact ⟨_, asked, defined⟩

theorem Resolves.of_undefined (undefined : base.definition? id name = none)
    (resolved : base.Resolves (.define marks id name) answer) :
    answer = .error (.classNotFound name) := by
  cases resolved with
  | undefined => rfl
  | circular defined =>
    rw [undefined] at defined
    cases defined
  | linked defined =>
    rw [undefined] at defined
    cases defined

theorem Resolves.of_definition {definition : ClassDefinition ι}
    (defined : base.definition? id name = some definition)
    (resolved : base.Resolves (.define marks id name) answer) :
    name ∈ marks ∧ answer = .error (.classCircularity name) ∨ name ∉ marks ∧
      base.Resolves (.meet (name :: marks) id definition.name id definition.demands) answer := by
  cases resolved with
  | undefined undefined =>
    rw [defined] at undefined
    cases undefined
  | circular _ marked => exact Or.inl ⟨marked, rfl⟩
  | linked definedAgain unmarked met =>
    rw [defined] at definedAgain
    cases definedAgain
    exact Or.inr ⟨unmarked, met⟩

end

/-! ## One answer -/

/-- Two areas have the same parents and definitions in a region of loaders that
contains the parents of its members. -/
structure Matching (region : LoaderId → Prop) (base other : Area ι) : Prop where
  rooted : region .bootstrap
  top : base.parent? .bootstrap = none
  parents : ∀ {id}, region id → other.parent? id = base.parent? id
  closed : ∀ {id parent}, region id → base.parent? id = some parent → region parent
  definitions : ∀ {id}, region id → ∀ name, other.definition? id name = base.definition? id name

/-- All loaders that have to do with a request belong to the region. -/
def Goal.Inside (region : LoaderId → Prop) : Goal → Prop
  | .load _ id _ => region id
  | .orDefine _ id _ asked => region id ∧ ∀ home, asked = .ok home → region home
  | .define _ id _ => region id
  | .meet _ id _ home _ => region id ∧ region home

theorem Matching.kindOf {region : LoaderId → Prop} (matching : Matching region base other)
    {id : LoaderId} (inside : region id) (name : ClassName) :
    other.kindOf id name = base.kindOf id name := by
  rw [Area.kindOf, Area.kindOf, matching.definitions inside]

/-- A request that concerns the region finds classes that are defined in it. -/
theorem Resolves.within {region : LoaderId → Prop} (matching : Matching region base other)
    {goal : Goal} {answer : Answer} (resolved : base.Resolves goal answer)
    (inside : goal.Inside region) : ∀ home, answer = .ok home → region home := by
  induction resolved with
  | primitive =>
    rintro _ ⟨⟩
    exact matching.rooted
  | malformed => rintro _ ⟨⟩
  | componentFails => rintro _ ⟨⟩
  | array _ _ _ _ component basics => exact basics ⟨matching.rooted, component inside _ rfl⟩
  | top _ _ _ _ own => exact own inside
  | parentFirst _ below _ _ parent own =>
    exact own ⟨inside, parent (matching.closed inside below)⟩
  | inherited => exact inside.2
  | passed => rintro _ ⟨⟩
  | shadowed _ own => exact own inside.1
  | undefined => rintro _ ⟨⟩
  | circular => rintro _ ⟨⟩
  | linked _ _ _ met => exact met ⟨inside, inside⟩
  | met =>
    rintro _ ⟨⟩
    exact inside.2
  | failed => rintro _ ⟨⟩
  | refused => rintro _ ⟨⟩
  | next _ _ _ _ rest => exact rest inside

/-- Where two areas match, what resolves in one resolves in the other. -/
theorem Resolves.transfer {region : LoaderId → Prop} (matching : Matching region base other)
    {goal : Goal} {answer : Answer} (resolved : base.Resolves goal answer)
    (inside : goal.Inside region) : other.Resolves goal answer := by
  induction resolved with
  | primitive keyword => exact .primitive keyword
  | malformed array shape => exact .malformed array shape
  | componentFails array shape _ component =>
    exact .componentFails array shape (component inside)
  | array array shape found _ component basics =>
    have home := found.within matching inside _ rfl
    exact .array array shape (component inside) (basics ⟨matching.rooted, home⟩)
  | top ordinary reference none _ own =>
    exact .top ordinary reference ((matching.parents inside).trans none) (own inside)
  | parentFirst ordinary below asked _ parent own =>
    have above := matching.closed inside below
    have homes := asked.within matching above
    exact .parentFirst ordinary ((matching.parents inside).trans below) (parent above)
      (own ⟨inside, homes⟩)
  | inherited => exact .inherited
  | passed different => exact .passed different
  | shadowed _ own => exact .shadowed (own inside.1)
  | undefined undefined => exact .undefined ((matching.definitions inside _).trans undefined)
  | circular defined marked =>
    exact .circular ((matching.definitions inside _).trans defined) marked
  | linked defined unmarked _ met =>
    exact .linked ((matching.definitions inside _).trans defined) unmarked (met ⟨inside, inside⟩)
  | met => exact .met
  | failed _ first => exact .failed (first inside.1)
  | refused found demanded different first =>
    rw [← matching.kindOf (found.within matching inside.1 _ rfl)] at different
    exact .refused (first inside.1) demanded different
  | next found fits _ first rest =>
    refine .next (first inside.1) (fun kind demanded => ?_) (rest inside)
    rw [matching.kindOf (found.within matching inside.1 _ rfl)]
    exact fits kind demanded

/-- A request has one answer. -/
theorem Resolves.unique (top : base.parent? .bootstrap = none) {goal : Goal}
    {answer again : Answer} (first : base.Resolves goal answer)
    (second : base.Resolves goal again) : again = answer := by
  induction first generalizing again with
  | primitive keyword => exact second.of_primitive top keyword
  | malformed array shape => exact second.of_malformed array shape
  | componentFails array shape _ component =>
    rcases second.of_array array shape with ⟨cause, failed, rfl⟩ | ⟨home, found, _⟩
    · exact component failed
    · cases component found
  | array array shape _ _ component basics =>
    rcases second.of_array array shape with ⟨cause, failed, rfl⟩ | ⟨home, found, met⟩
    · cases component failed
    · cases component found
      exact basics met
  | top ordinary reference none _ own => exact own (second.of_top ordinary reference none)
  | parentFirst ordinary below _ _ parent own =>
    rcases second.of_parent top ordinary below with ⟨asked, requested, defined⟩
    cases parent requested
    exact own defined
  | inherited =>
    cases second with
    | inherited => rfl
  | passed other =>
    cases second with
    | passed => rfl
    | shadowed => exact absurd rfl (other _)
  | shadowed _ own =>
    cases second with
    | passed other => exact absurd rfl (other _)
    | shadowed defined => exact own defined
  | undefined undefined => exact second.of_undefined undefined
  | circular defined marked =>
    rcases second.of_definition defined with ⟨_, same⟩ | ⟨unmarked, _⟩
    · exact same
    · exact absurd marked unmarked
  | linked defined unmarked _ linked =>
    rcases second.of_definition defined with ⟨marked, _⟩ | ⟨_, met⟩
    · exact absurd marked unmarked
    · exact linked met
  | met =>
    cases second with
    | met => rfl
  | failed _ first =>
    cases second with
    | failed failed =>
      cases first failed
      rfl
    | refused found => cases first found
    | next found => cases first found
  | refused _ demanded different first =>
    cases second with
    | failed failed => cases first failed
    | refused => rfl
    | next found fits =>
      cases first found
      exact absurd (fits _ demanded) different
  | next _ fits _ first rest =>
    cases second with
    | failed failed => cases first failed
    | refused found demanded different =>
      cases first found
      exact absurd (fits _ demanded) different
    | next _ _ met => exact rest met

/-- Where two areas match, they give the same answer. -/
theorem Resolves.agree {region : LoaderId → Prop} (matching : Matching region base other)
    {goal : Goal} {answer otherAnswer : Answer} (resolved : base.Resolves goal answer)
    (inside : goal.Inside region) (otherResolved : other.Resolves goal otherAnswer) :
    otherAnswer = answer :=
  (resolved.transfer matching inside).unique
    ((matching.parents matching.rooted).trans matching.top) otherResolved

end Area
end ClassRuntime

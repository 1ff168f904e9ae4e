import ClassRuntime.Proofs.Class.Subtyping

namespace ClassRuntime

/-!
# Assignability in a larger graph

A graph of classes is extended when classes are added and the types of those that
are there stay as they are.  Assignability looks at no other classes than those
that it reaches from its two arguments, and it limits its search by the number of
classes.  A larger graph only raises the limits, so that an answer that has been
given once is given in every extension.  This holds of any graph, whatever the
references in it lead to.

An answer is given whenever references do not lead out of the graph and
components descend.  Nothing is said here about what the answer means.
-/

/-- A value of the first computation is one of the second. -/
def Carries {α : Type} (first second : Except Fault α) : Prop :=
  ∀ value, first = .ok value → second = .ok value

namespace Carries

variable {α β : Type}

theorem refl (result : Except Fault α) : Carries result result :=
  fun _ same => same

theorem fault (cause : Fault) (result : Except Fault α) : Carries (.error cause) result :=
  fun _ impossible => by cases impossible

theorem bind {first second : Except Fault α} {next onward : α → Except Fault β}
    (carries : Carries first second) (rest : ∀ value, Carries (next value) (onward value)) :
    Carries (first >>= next) (second >>= onward) := by
  intro value ended
  cases first with
  | error cause => cases ended
  | ok middle =>
    rw [carries middle rfl]
    exact rest middle value ended

end Carries

namespace ClassGraph

variable {graph before after : ClassGraph}

/-! ## Answers last -/

/-- The second graph has the types of the first, and at least as many classes. -/
structure Extends (before after : ClassGraph) : Prop where
  type : ∀ id, Carries (before.type id) (after.type id)
  bound : before.ids.length ≤ after.ids.length

namespace Extends

variable (extended : before.Extends after)

include extended

theorem walk {limit more : Nat} (enough : limit ≤ more) (seen queue : List ClassId) :
    Carries (before.walk limit seen queue) (after.walk more seen queue) := by
  induction limit using Nat.strongRecOn generalizing more seen queue with
  | ind limit inductiveStep =>
    rw [ClassGraph.walk.eq_def, ClassGraph.walk.eq_def]
    cases next? seen queue with
    | none => exact .refl _
    | some pair =>
      obtain ⟨current, rest⟩ := pair
      cases limit with
      | zero => exact .fault _ _
      | succ less =>
        cases more with
        | zero => exact absurd enough (Nat.not_succ_le_zero less)
        | succ more =>
          refine .bind (extended.type current) fun type => .bind ?_ fun found => .refl _
          exact inductiveStep less (Nat.lt_succ_self less) (Nat.le_of_succ_le_succ enough) _ _

theorem supertypes (id : ClassId) : Carries (before.supertypes id) (after.supertypes id) :=
  extended.walk (Nat.succ_le_succ extended.bound) [] [id]

/-- Both recursions take the same way, since they find the same types. -/
theorem assignableWithin {limit more : Nat} (enough : limit ≤ more) (source target : ClassId) :
    Carries (before.assignableWithin limit source target)
      (after.assignableWithin more source target) := by
  induction limit using Nat.strongRecOn generalizing more source target with
  | ind limit inductiveStep =>
    rw [ClassGraph.assignableWithin, ClassGraph.assignableWithin]
    split
    · exact .refl _
    refine .bind (extended.type source) fun sourceType =>
      .bind (extended.type target) fun targetType => ?_
    split
    · exact .refl _
    split
    · split
      next component other _ _ _ =>
        split
        · exact .refl _
        refine .bind (extended.type component) fun element =>
          .bind (extended.type other) fun otherElement => ?_
        split
        · exact .refl _
        cases limit with
        | zero => exact .fault _ _
        | succ less =>
          cases more with
          | zero => exact absurd enough (Nat.not_succ_le_zero less)
          | succ more =>
            exact inductiveStep less (Nat.lt_succ_self less) (Nat.le_of_succ_le_succ enough)
              component other
      next => exact .refl _
    · split
      · exact .refl _
      · exact .bind (extended.supertypes source) fun found => .refl _

/-- What has been decided in a graph is decided in the same way in a larger one. -/
theorem assignable (source target : ClassId) :
    Carries (before.assignable source target) (after.assignable source target) :=
  extended.assignableWithin extended.bound source target

end Extends

/-! ## Answers are given -/

/-- No reference leads out of the graph, and the component of an array is an
earlier class. -/
structure Founded (graph : ClassGraph) : Prop where
  listed : ∀ {id}, id ∈ graph.ids ↔ ∃ type, graph.type id = .ok type
  inherited : ∀ {id type other}, graph.type id = .ok type → other ∈ type.supertypes →
    other ∈ graph.ids
  component : ∀ {id type component}, graph.type id = .ok type → type.component = some component →
    component < id ∧ component ∈ graph.ids

namespace Founded

variable (founded : graph.Founded)

include founded

theorem closed : graph.Closed := by
  intro id member
  rcases founded.listed.1 member with ⟨type, typed⟩
  exact ⟨type, typed, fun other => founded.inherited typed⟩

/-- The limit suffices as long as it is not below the number of earlier classes. -/
theorem exists_assignableWithin {limit : Nat} {source target : ClassId}
    (inside : source ∈ graph.ids) (insideTarget : target ∈ graph.ids)
    (enough : graph.rank source ≤ limit) :
    ∃ answer, graph.assignableWithin limit source target = .ok answer := by
  induction limit using Nat.strongRecOn generalizing source target with
  | ind limit inductiveStep =>
    rcases founded.listed.1 inside with ⟨sourceType, typed⟩
    rcases founded.listed.1 insideTarget with ⟨targetType, typedTarget⟩
    rw [assignableWithin, typed, typedTarget]
    simp only [bind, Except.bind]
    split
    · exact ⟨_, rfl⟩
    split
    · exact ⟨_, rfl⟩
    split
    · split
      next component other _ has hasTarget =>
        split
        · exact ⟨_, rfl⟩
        rcases founded.component typed has with ⟨lower, below⟩
        have belowTarget := (founded.component typedTarget hasTarget).2
        rcases founded.listed.1 below with ⟨element, typedElement⟩
        rcases founded.listed.1 belowTarget with ⟨otherElement, typedOther⟩
        rw [typedElement, typedOther]
        dsimp only
        split
        · exact ⟨_, rfl⟩
        have fewer := rank_lt below lower
        cases limit with
        | zero => exact absurd (Nat.lt_of_lt_of_le fewer enough) (Nat.not_lt_zero _)
        | succ less =>
          exact inductiveStep less (Nat.lt_succ_self less) below belowTarget
            (Nat.le_of_lt_succ (Nat.lt_of_lt_of_le fewer enough))
      next => exact ⟨_, rfl⟩
    · split
      · exact ⟨_, rfl⟩
      · rcases supertypes_spec founded.closed inside with ⟨found, walked, _⟩
        rw [walked]
        exact ⟨_, rfl⟩

theorem exists_assignable {source target : ClassId} (inside : source ∈ graph.ids)
    (insideTarget : target ∈ graph.ids) :
    ∃ answer, graph.assignable source target = .ok answer :=
  founded.exists_assignableWithin inside insideTarget List.countP_le_length

end Founded
end ClassGraph
end ClassRuntime

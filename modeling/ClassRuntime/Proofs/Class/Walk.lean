import ClassRuntime.Class.Hierarchy
import Mathlib.Data.List.Nodup
import Mathlib.Data.List.Perm.Subperm
import Mathlib.Logic.Relation
import Mathlib.Order.Lattice.Nat

namespace ClassRuntime
namespace ClassGraph

/-!
# The walk of the supertypes

The walk keeps the classes that it has met and a queue of classes that are still to be
looked at.  A class may be put into the queue by every class that inherits from it, and
it may be there again after it has been met.

The queue falls into two parts.  In front are classes on one level, which are as far
from the start as the next class to be met, and behind them classes that are reached by
one step more.  All nearer classes have been met.  When the front is used up the rest of
the queue is a level of its own, and it is a complete one, since every class on the
level before has been met and followed.  So the walk meets what is reached from the
start along superclasses and interfaces, each class once, and the nearest first.  The
graph may contain cycles.  What is met is in the graph, so the limit is not used up.
-/

variable {graph : ClassGraph} {start : ClassId}

/-- The second class is a superclass or an interface of the first. -/
def Inherits (graph : ClassGraph) (id other : ClassId) : Prop :=
  ∃ type, graph.type id = .ok type ∧ other ∈ type.supertypes

/-- Every class of the graph has a type, and its supertypes are in the graph. -/
def Closed (graph : ClassGraph) : Prop :=
  ∀ id ∈ graph.ids, ∃ type, graph.type id = .ok type ∧ ∀ other ∈ type.supertypes,
    other ∈ graph.ids

theorem Inherits.mem_supertypes {id other : ClassId} {type : TypeDescriptor}
    (inherits : graph.Inherits id other) (typed : graph.type id = .ok type) :
    other ∈ type.supertypes := by
  obtain ⟨same, again, inherited⟩ := inherits
  rw [typed] at again
  cases again
  exact inherited

/-! ## Distance -/

/-- The second class is reached from the first along this many edges. -/
inductive Path (graph : ClassGraph) (start : ClassId) : Nat → ClassId → Prop
  | start : Path graph start 0 start
  | step {length : Nat} {id other : ClassId} :
      Path graph start length id → graph.Inherits id other → Path graph start (length + 1) other

/-- The number of edges of a shortest path. -/
noncomputable def distance (graph : ClassGraph) (start id : ClassId) : Nat :=
  sInf { length | graph.Path start length id }

namespace Path

variable {length : Nat} {id : ClassId}

theorem reaches (path : graph.Path start length id) :
    Relation.ReflTransGen graph.Inherits start id := by
  induction path with
  | start => exact .refl
  | step _ last inductiveStep => exact inductiveStep.tail last

theorem distance_le (path : graph.Path start length id) : graph.distance start id ≤ length :=
  Nat.sInf_le path

end Path

theorem exists_path {id : ClassId} (reaches : Relation.ReflTransGen graph.Inherits start id) :
    ∃ length, graph.Path start length id := by
  induction reaches with
  | refl => exact ⟨0, .start⟩
  | tail _ last inductiveStep =>
    obtain ⟨length, path⟩ := inductiveStep
    exact ⟨length + 1, path.step last⟩

theorem path_distance {id : ClassId} (reaches : Relation.ReflTransGen graph.Inherits start id) :
    graph.Path start (graph.distance start id) id :=
  Nat.sInf_mem (exists_path reaches)

/-! ## The frontier -/

/-- How far a walk has come.  The queue consists of the classes in front, which are on one
level, and the classes behind, which are reached by one step more. -/
structure Frontier (graph : ClassGraph) (start : ClassId) (level : Nat)
    (seen front behind : List ClassId) : Prop where
  reached : ∀ id ∈ seen, Relation.ReflTransGen graph.Inherits start id
  onLevel : ∀ id ∈ front, graph.Path start level id
  beyond : ∀ id ∈ behind, graph.Path start (level + 1) id
  /-- All classes that are nearer than the level have been met. -/
  nearer : ∀ {length id}, length < level → graph.Path start length id → id ∈ seen
  /-- None of the classes on the level is missing. -/
  filled : ∀ {id}, graph.Path start level id → id ∈ seen ∨ id ∈ front
  /-- What has been met has been followed. -/
  followed : ∀ id ∈ seen, ∀ other, graph.Inherits id other →
    (other ∈ seen ∨ other ∈ front) ∨ other ∈ behind

namespace Frontier

variable {level : Nat} {seen front behind : List ClassId}

theorem begin (graph : ClassGraph) (start : ClassId) : Frontier graph start 0 [] [start] [] where
  reached := by simp
  onLevel id member := by
    rw [List.mem_singleton.1 member]
    exact .start
  beyond := by simp
  nearer shorter := absurd shorter (Nat.not_lt_zero _)
  filled path := by
    cases path
    exact .inr (List.mem_singleton_self start)
  followed := by simp

/-- When nothing is left on a level the next one is complete. -/
theorem advance (frontier : Frontier graph start level seen [] behind) :
    Frontier graph start (level + 1) seen behind [] where
  reached := frontier.reached
  onLevel := frontier.beyond
  beyond := by simp
  nearer shorter path := by
    rcases Nat.lt_succ_iff_lt_or_eq.1 shorter with nearer | rfl
    · exact frontier.nearer nearer path
    · simpa using frontier.filled path
  filled path := by
    cases path with
    | @step _ id _ before last =>
      have met : id ∈ seen := by simpa using frontier.filled before
      simpa using frontier.followed id met _ last
  followed id member other inherits := by
    simpa using frontier.followed id member other inherits

/-- The first class of the queue can be taken out as soon as it counts as met. -/
theorem moved {id other : ClassId} {more : List ClassId} (kept : seen ⊆ more) (met : id ∈ more)
    (known : other ∈ seen ∨ other ∈ id :: front) : other ∈ more ∨ other ∈ front := by
  rcases known with old | waiting
  · exact .inl (kept old)
  · rcases List.mem_cons.1 waiting with rfl | later
    · exact .inl met
    · exact .inr later

/-- A class that has been met is passed over. -/
theorem skip {id : ClassId} (frontier : Frontier graph start level seen (id :: front) behind)
    (met : id ∈ seen) : Frontier graph start level seen front behind where
  reached := frontier.reached
  onLevel other member := frontier.onLevel other (List.mem_cons_of_mem id member)
  beyond := frontier.beyond
  nearer := frontier.nearer
  filled path := moved (List.Subset.refl seen) met (frontier.filled path)
  followed other member further inherits := by
    apply (frontier.followed other member further inherits).imp_left
    exact moved (List.Subset.refl seen) met

/-- A class that is met puts its supertypes behind the level. -/
theorem visit {id : ClassId} {type : TypeDescriptor}
    (frontier : Frontier graph start level seen (id :: front) behind)
    (typed : graph.type id = .ok type) :
    Frontier graph start level (id :: seen) front (behind ++ type.supertypes) where
  reached other member := by
    rcases List.mem_cons.1 member with rfl | old
    · exact (frontier.onLevel other List.mem_cons_self).reaches
    · exact frontier.reached other old
  onLevel other member := frontier.onLevel other (List.mem_cons_of_mem id member)
  beyond other member := by
    rcases List.mem_append.1 member with old | new
    · exact frontier.beyond other old
    · exact (frontier.onLevel id List.mem_cons_self).step ⟨type, typed, new⟩
  nearer shorter path := List.mem_cons_of_mem id (frontier.nearer shorter path)
  filled path := moved (List.subset_cons_self id seen) List.mem_cons_self (frontier.filled path)
  followed other member further inherits := by
    rcases List.mem_cons.1 member with rfl | old
    · exact .inr (List.mem_append_right behind (inherits.mem_supertypes typed))
    · apply (frontier.followed other old further inherits).imp
      · exact moved (List.subset_cons_self id seen) List.mem_cons_self
      · exact List.mem_append_left type.supertypes

/-- The first class of the queue is on a level. -/
theorem first {id : ClassId} {rest : List ClassId}
    (frontier : Frontier graph start level seen front behind)
    (queue : front ++ behind = id :: rest) :
    ∃ level front behind, rest = front ++ behind ∧
      Frontier graph start level seen (id :: front) behind := by
  cases front with
  | nil =>
    rw [List.nil_append] at queue
    subst queue
    exact ⟨level + 1, rest, [], by simp, frontier.advance⟩
  | cons head front =>
    cases queue
    exact ⟨level, front, behind, rfl, frontier⟩

/-- What the walk takes from the queue is on a level, and it has not been met. -/
theorem next {current : ClassId} {queue rest : List ClassId}
    (frontier : Frontier graph start level seen front behind) (parts : front ++ behind = queue)
    (taken : next? seen queue = some (current, rest)) :
    current ∉ seen ∧ ∃ level front behind, rest = front ++ behind ∧
      Frontier graph start level seen (current :: front) behind := by
  induction queue generalizing level front behind with
  | nil => cases taken
  | cons head queue inductiveStep =>
    obtain ⟨level, front, behind, rfl, onward⟩ := frontier.first parts
    rw [next?] at taken
    split at taken
    next met => exact inductiveStep (onward.skip met) rfl taken
    next new =>
      cases taken
      exact ⟨new, level, front, behind, rfl, onward⟩

theorem started (frontier : Frontier graph start level seen front behind) :
    start ∈ seen ∨ start ∈ front := by
  cases level with
  | zero => exact frontier.filled .start
  | succ level => exact .inl (frontier.nearer (Nat.succ_pos level) .start)

/-- A walk with nothing left to look at has met exactly what can be reached. -/
theorem complete (frontier : Frontier graph start level seen front behind)
    (done : ∀ id ∈ front ++ behind, id ∈ seen) (id : ClassId) :
    id ∈ seen ↔ Relation.ReflTransGen graph.Inherits start id := by
  constructor
  · exact frontier.reached id
  · intro reaches
    induction reaches with
    | refl =>
      rcases frontier.started with met | waiting
      · exact met
      · exact done start (List.mem_append_left behind waiting)
    | @tail id other _ last met =>
      rcases or_assoc.1 (frontier.followed id met other last) with old | waiting
      · exact old
      · exact done other (List.mem_append.2 waiting)

end Frontier

theorem seen_of_next?_eq_none {seen queue : List ClassId} (done : next? seen queue = none) :
    ∀ id ∈ queue, id ∈ seen := by
  induction queue with
  | nil => simp
  | cons head rest inductiveStep =>
    rw [next?] at done
    split at done
    next met => simpa [met] using inductiveStep done
    next => cases done

/-! ## What is found -/

/-- What a walk that has met some classes has still to find: the rest of what can be
reached, each class once and the nearest first. -/
structure Explores (graph : ClassGraph) (start : ClassId) (seen found : List ClassId) : Prop where
  nodup : found.Nodup
  fresh : ∀ id ∈ found, id ∉ seen
  complete : ∀ id, id ∈ seen ∨ id ∈ found ↔ Relation.ReflTransGen graph.Inherits start id
  nearest : found.Pairwise fun first second =>
    graph.distance start first ≤ graph.distance start second

namespace Explores

variable {level : Nat} {current : ClassId} {seen front behind found : List ClassId}

theorem nil (frontier : Frontier graph start level seen front behind)
    (done : ∀ id ∈ front ++ behind, id ∈ seen) : Explores graph start seen [] where
  nodup := .nil
  fresh := by simp
  complete id := by simpa using frontier.complete done id
  nearest := .nil

/-- No class that is met later is nearer than the one that is met now. -/
theorem cons (frontier : Frontier graph start level seen (current :: front) behind)
    (new : current ∉ seen) (explores : Explores graph start (current :: seen) found) :
    Explores graph start seen (current :: found) where
  nodup := List.nodup_cons.2
    ⟨fun again => explores.fresh current again List.mem_cons_self, explores.nodup⟩
  fresh id member := by
    rcases List.mem_cons.1 member with rfl | later
    · exact new
    · exact fun old => explores.fresh id later (List.mem_cons_of_mem current old)
  complete id := by
    rw [← explores.complete id, List.mem_cons, List.mem_cons, or_left_comm, or_assoc]
  nearest := by
    refine List.pairwise_cons.2 ⟨fun id later => ?_, explores.nearest⟩
    have path := path_distance ((explores.complete id).1 (.inr later))
    have near : graph.distance start current ≤ level :=
      (frontier.onLevel current List.mem_cons_self).distance_le
    apply Nat.le_of_not_lt
    intro farther
    have met := frontier.nearer (Nat.lt_of_lt_of_le farther near) path
    exact explores.fresh id later (List.mem_cons_of_mem current met)

end Explores

/-- Every class that is reached from the start can be resolved, and it is one of the
finitely many that the graph lists. -/
def Resolves (graph : ClassGraph) (start : ClassId) : Prop :=
  ∀ id, Relation.ReflTransGen graph.Inherits start id →
    id ∈ graph.ids ∧ ∃ type, graph.type id = .ok type

theorem Closed.resolves (closed : graph.Closed) (inside : start ∈ graph.ids) :
    graph.Resolves start := by
  intro id reaches
  have member : id ∈ graph.ids := by
    induction reaches with
    | refl => exact inside
    | tail _ last member =>
      obtain ⟨type, typed, inherited⟩ := closed _ member
      exact inherited _ (last.mem_supertypes typed)
  obtain ⟨type, typed, _⟩ := closed id member
  exact ⟨member, type, typed⟩

theorem walk_done {limit : Nat} {seen queue : List ClassId} (done : next? seen queue = none) :
    graph.walk limit seen queue = .ok [] := by
  rw [walk, done]

theorem walk_met {limit : Nat} {current : ClassId} {seen queue rest found : List ClassId}
    {type : TypeDescriptor} (taken : next? seen queue = some (current, rest))
    (typed : graph.type current = .ok type)
    (walked : graph.walk limit (current :: seen) (rest ++ type.supertypes) = .ok found) :
    graph.walk (limit + 1) seen queue = .ok (current :: found) := by
  rw [walk, taken]
  simp only [typed, walked, bind, Except.bind]

/-- A walk comes to its end within any limit that is not below the number of classes that
it has not met. -/
theorem walk_explores (resolves : graph.Resolves start) {limit level : Nat}
    {seen front behind : List ClassId} (frontier : Frontier graph start level seen front behind)
    (distinct : seen.Nodup) (enough : graph.ids.length ≤ limit + seen.length) :
    ∃ found, graph.walk limit seen (front ++ behind) = .ok found ∧
      Explores graph start seen found := by
  induction limit using Nat.strongRecOn generalizing level seen front behind with
  | ind limit inductiveStep =>
    cases taken : next? seen (front ++ behind) with
    | none => exact ⟨[], walk_done taken, .nil frontier (seen_of_next?_eq_none taken)⟩
    | some pair =>
      obtain ⟨current, rest⟩ := pair
      obtain ⟨new, level, front, behind, rfl, onward⟩ := frontier.next rfl taken
      have reaches := (onward.onLevel current List.mem_cons_self).reaches
      obtain ⟨_, type, typed⟩ := resolves current reaches
      have visited := onward.visit typed
      have distinct : (current :: seen).Nodup := List.nodup_cons.2 ⟨new, distinct⟩
      have bounded := (distinct.subperm fun id member =>
        (resolves id (visited.reached id member)).1).length_le
      rw [List.length_cons] at bounded
      cases limit with
      | zero => omega
      | succ limit =>
        obtain ⟨found, walked, explores⟩ := inductiveStep limit (Nat.lt_succ_self limit) visited
          distinct (by rw [List.length_cons]; omega)
        rw [← List.append_assoc] at walked
        exact ⟨current :: found, walk_met taken typed walked, explores.cons onward new⟩

theorem supertypes_explores (resolves : graph.Resolves start) :
    ∃ found, graph.supertypes start = .ok found ∧ Explores graph start [] found :=
  walk_explores resolves (.begin graph start) .nil (Nat.le_succ _)

/-- The supertypes of a class are those that are reached from it. -/
theorem supertypes_spec (closed : graph.Closed) (inside : start ∈ graph.ids) :
    ∃ result, graph.supertypes start = .ok result ∧
      ∀ id, id ∈ result ↔ Relation.ReflTransGen graph.Inherits start id := by
  obtain ⟨found, walked, explores⟩ := supertypes_explores (closed.resolves inside)
  exact ⟨found, walked, fun id => by simpa using explores.complete id⟩

/-- The walk starts with the class itself, whatever comes then. -/
theorem head?_supertypes {found : List ClassId} (walked : graph.supertypes start = .ok found) :
    found.head? = some start := by
  rw [supertypes, walk, next?, if_neg List.not_mem_nil] at walked
  dsimp only at walked
  cases typed : graph.type start with
  | error fault =>
    rw [typed] at walked
    cases walked
  | ok type =>
    rw [typed] at walked
    dsimp only [bind, Except.bind] at walked
    split at walked
    · cases walked
    · cases walked
      rfl

/-- In a finite graph, cycles included, the supertypes of a class from which no reference
leads out are found breadth first: the class itself to begin with, then what is reached
from it along superclasses and interfaces, each class once and the nearest first. -/
theorem supertypes_breadth_first
    (listed : ∀ id type, graph.type id = .ok type → id ∈ graph.ids)
    (resolved : ∀ id, Relation.ReflTransGen graph.Inherits start id →
      ∃ type, graph.type id = .ok type) :
    ∃ found, graph.supertypes start = .ok found ∧ found.head? = some start ∧ found.Nodup ∧
      (∀ id, id ∈ found ↔ Relation.ReflTransGen graph.Inherits start id) ∧
      found.Pairwise fun first second =>
        graph.distance start first ≤ graph.distance start second := by
  have resolves : graph.Resolves start := by
    intro id reaches
    obtain ⟨type, typed⟩ := resolved id reaches
    exact ⟨listed id type typed, type, typed⟩
  obtain ⟨found, walked, explores⟩ := supertypes_explores resolves
  refine ⟨found, walked, head?_supertypes walked, explores.nodup, ?_, explores.nearest⟩
  intro id
  simpa using explores.complete id

/-- Four classes that inherit from one another in circles.  The first reaches the last in two
ways and names its superclass among its interfaces again, and the third inherits from itself. -/
def entangled : ClassGraph where
  ids := [⟨⟨0⟩, 0⟩, ⟨⟨0⟩, 1⟩, ⟨⟨0⟩, 2⟩, ⟨⟨0⟩, 3⟩]
  type
    | ⟨⟨0⟩, 0⟩ => .ok { (default : TypeDescriptor) with
        superclass := some ⟨⟨0⟩, 1⟩, interfaces := [⟨⟨0⟩, 2⟩, ⟨⟨0⟩, 1⟩] }
    | ⟨⟨0⟩, 1⟩ => .ok { (default : TypeDescriptor) with interfaces := [⟨⟨0⟩, 3⟩, ⟨⟨0⟩, 0⟩] }
    | ⟨⟨0⟩, 2⟩ => .ok { (default : TypeDescriptor) with interfaces := [⟨⟨0⟩, 2⟩, ⟨⟨0⟩, 3⟩] }
    | ⟨⟨0⟩, 3⟩ => .ok { (default : TypeDescriptor) with superclass := some ⟨⟨0⟩, 1⟩ }
    | id => .error (.danglingClass id)

theorem entangled_listed (id : ClassId) (type : TypeDescriptor)
    (typed : entangled.type id = .ok type) : id ∈ entangled.ids := by
  unfold entangled at typed
  dsimp only at typed
  split at typed
  · decide
  · decide
  · decide
  · decide
  · cases typed

theorem entangled_closed : entangled.Closed := by
  intro id member
  simp only [entangled, List.mem_cons, List.not_mem_nil, or_false] at member
  rcases member with rfl | rfl | rfl | rfl
  · exact ⟨_, rfl, by decide⟩
  · exact ⟨_, rfl, by decide⟩
  · exact ⟨_, rfl, by decide⟩
  · exact ⟨_, rfl, by decide⟩

theorem supertypes_breadth_first_entangled :
    (∀ id type, entangled.type id = .ok type → id ∈ entangled.ids) ∧
    (∀ id, Relation.ReflTransGen entangled.Inherits ⟨⟨0⟩, 0⟩ id →
      ∃ type, entangled.type id = .ok type) ∧
    ∃ found, entangled.supertypes ⟨⟨0⟩, 0⟩ = .ok found ∧
      found = [⟨⟨0⟩, 0⟩, ⟨⟨0⟩, 1⟩, ⟨⟨0⟩, 2⟩, ⟨⟨0⟩, 3⟩] ∧
      found.Pairwise fun first second =>
        entangled.distance ⟨⟨0⟩, 0⟩ first ≤ entangled.distance ⟨⟨0⟩, 0⟩ second := by
  have inside : (⟨⟨0⟩, 0⟩ : ClassId) ∈ entangled.ids := by decide
  have resolves := entangled_closed.resolves inside
  have resolved := fun id reaches => (resolves id reaches).2
  obtain ⟨found, walked, _, _, _, nearest⟩ :=
    supertypes_breadth_first entangled_listed resolved
  have result : entangled.supertypes ⟨⟨0⟩, 0⟩ =
      .ok [⟨⟨0⟩, 0⟩, ⟨⟨0⟩, 1⟩, ⟨⟨0⟩, 2⟩, ⟨⟨0⟩, 3⟩] := by rfl
  have same := Except.ok.inj (walked.symm.trans result)
  exact ⟨entangled_listed, resolved, found, walked, same, nearest⟩

end ClassGraph
end ClassRuntime

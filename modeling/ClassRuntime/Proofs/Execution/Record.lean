import ClassRuntime.Proofs.Execution.Run

namespace ClassRuntime

/-!
# Records of runs

What is promised about static initialization concerns the record of a run.
To keep the promises, more has to hold between operations: the counter of
initializers agrees with the classes, classes whose initializers were entered
have started, and no class has started before its superclass.  The last of
these replaces what one might expect, that the superclass of an initialized
class is initialized.  That can fail, since a superclass may fail after a
subclass has been initialized from inside of its initializer.
-/

namespace Area

variable {ι : Type}

/-- The class is initialized, or the thread is about to initialize it. -/
def IsReady (area : Area ι) (thread : ThreadId) (id : ClassId) : Prop :=
  area.progress id = .initialized ∨ area.progress id = .inProgress thread

/-- What an initializer can rely on when the thread enters it. -/
structure Supports (area : Area ι) (thread : ThreadId) (id : ClassId) : Prop where
  direct : ∀ superclass, area.Extends id superclass → area.IsReady thread superclass
  above : ∀ superclass, Relation.TransGen area.Extends id superclass →
    area.progress superclass ≠ .notStarted

theorem IsReady.started {area : Area ι} {thread : ThreadId} {id : ClassId}
    (ready : area.IsReady thread id) : area.progress id ≠ .notStarted := by
  intro unstarted
  unfold IsReady at ready
  rw [unstarted] at ready
  rcases ready with impossible | impossible
  · cases impossible
  · cases impossible

end Area

/-- The counter of initializers agrees with the classes that have begun. -/
def Machine.Counted {ι : Type} (machine : Machine ι) : Prop :=
  machine.metrics.staticInitializersRun = machine.area.begun

namespace Recorded

variable {ι σ : Type} {before middle after session : Session ι (Recorded ι σ)}

/-- The record of a run in which static initialization takes its course. -/
structure Disciplined (session : Session ι (Recorded ι σ)) : Prop where
  /-- From each moment to every later one, and to the present, all classes
  advance. -/
  advancing : (session.machine :: session.host.moments.map fun moment => moment.machine).Pairwise
    fun later earlier => earlier.area.Advances later.area
  /-- No initializer is entered twice. -/
  once : session.host.entries.Nodup
  /-- Superclasses come first. -/
  supported : ∀ moment ∈ session.host.moments, ∀ thread id,
    moment.event = .entered thread id → moment.machine.area.Supports thread id
  counted : ∀ moment ∈ session.host.moments, moment.machine.Counted

/-- What holds of a session between operations. -/
structure Orderly (session : Session ι (Recorded ι σ)) : Prop extends Disciplined session where
  agreed : session.machine.Counted
  entered : ∀ id ∈ session.host.entries, session.machine.area.progress id ≠ .notStarted
  climbing : ∀ id superclass, session.machine.area.Extends id superclass →
    session.machine.area.progress id ≠ .notStarted →
      session.machine.area.progress superclass ≠ .notStarted

/-- What an operation can make of an orderly session: the same initializations
are under way in the end. -/
structure Later (before after : Session ι (Recorded ι σ)) : Prop where
  orderly : Orderly after
  advances : before.machine.area.Advances after.machine.area
  running : ∀ id owner, after.machine.area.progress id = .inProgress owner ↔
    before.machine.area.progress id = .inProgress owner

theorem entries_noted (event : Event) (session : Session ι (Recorded ι σ)) :
    (noted event session).host.entries =
      event.entered?.toList ++ session.host.entries := by
  rw [entries, noted, List.filterMap_cons]
  cases event.entered? with
  | none => rfl
  | some id => rfl

/-- The session in which a class has been claimed, and in which its
initializer, if it has one, has been counted. -/
def claimed (thread : ThreadId) (id : ClassId) (loaded : LoadedClass ι)
    (session : Session ι (Recorded ι σ)) : Session ι (Recorded ι σ) :=
  { session with machine :=
    { session.machine with
      area := session.machine.area.setProgress id (.inProgress thread)
      metrics :=
        if loaded.initializer.isSome then session.machine.metrics.countInitializer
        else session.machine.metrics } }

/-- The session in which a class has come to the given progress. -/
def staged (id : ClassId) (progress : Progress) (session : Session ι (Recorded ι σ)) :
    Session ι (Recorded ι σ) :=
  { session with machine :=
    { session.machine with area := session.machine.area.setProgress id progress } }

namespace Later

theorem refl (orderly : Orderly session) : Later session session where
  orderly := orderly
  advances := refl_of Area.Advances _
  running _ _ := Iff.rfl

theorem trans (first : Later before middle) (second : Later middle after) :
    Later before after where
  orderly := second.orderly
  advances := trans_of Area.Advances first.advances second.advances
  running id owner := (second.running id owner).trans (first.running id owner)

end Later

namespace Orderly

/-- The machine goes on and nothing is recorded. -/
theorem proceed (orderly : Orderly before) (same : after.host.moments = before.host.moments)
    (advances : before.machine.area.Advances after.machine.area)
    (agreed : after.machine.Counted)
    (climbing : ∀ id superclass, after.machine.area.Extends id superclass →
      after.machine.area.progress id ≠ .notStarted →
        after.machine.area.progress superclass ≠ .notStarted) : Orderly after := by
  have sameEntries : after.host.entries = before.host.entries := by
    rw [entries, entries, same]
  refine ⟨⟨?_, ?_, ?_, ?_⟩, agreed, ?_, climbing⟩
  · have earlier := List.pairwise_cons.1 orderly.advancing
    rw [same, List.pairwise_cons]
    refine ⟨fun machine member => ?_, earlier.2⟩
    exact trans_of Area.Advances (earlier.1 machine member) advances
  · rw [sameEntries]
    exact orderly.once
  · rw [same]
    exact orderly.supported
  · rw [same]
    exact orderly.counted
  · intro id member
    rw [sameEntries] at member
    exact advances.started (orderly.entered id member)

/-- The machine changes quietly. -/
theorem quiet (orderly : Orderly before) {machine : Machine ι}
    (quiet : before.machine.Quiet machine) : Later before { before with machine } where
  orderly := by
    refine orderly.proceed rfl quiet.area.advances ?_ fun id superclass inherits started => ?_
    · unfold Machine.Counted
      rw [quiet.counter, quiet.area.begun]
      exact orderly.agreed
    · dsimp only at inherits started ⊢
      rw [quiet.area.progress] at started ⊢
      rcases Area.class?_of_started started with ⟨loaded, found⟩
      have above := quiet.area.advances.extends_of_known found inherits
      exact orderly.climbing id superclass ⟨loaded, found, above⟩ started
  advances := quiet.area.advances
  running id owner := by
    dsimp only
    rw [quiet.area.progress]

/-- A moment is recorded.  If an initializer is entered, it is supported, and
it has not been entered before. -/
theorem noted (orderly : Orderly session) {event : Event}
    (supported : ∀ thread id, event = .entered thread id →
      session.machine.area.Supports thread id)
    (fresh : ∀ id ∈ event.entered?, id ∉ session.host.entries)
    (entered : ∀ id ∈ event.entered?, session.machine.area.progress id ≠ .notStarted) :
    Later session (Recorded.noted event session) := by
  refine ⟨⟨⟨?_, ?_, ?_, ?_⟩, orderly.agreed, ?_, orderly.climbing⟩,
    refl_of Area.Advances _, fun _ _ => Iff.rfl⟩
  · have earlier := List.pairwise_cons.1 orderly.advancing
    refine List.pairwise_cons.2 ⟨fun machine member => ?_, orderly.advancing⟩
    rcases List.mem_cons.1 member with rfl | member
    · exact refl_of Area.Advances _
    · exact earlier.1 machine member
  · rw [entries_noted]
    cases shown : event.entered? with
    | none => exact orderly.once
    | some id => exact List.nodup_cons.2 ⟨fresh id shown, orderly.once⟩
  · intro moment member thread id happened
    rcases List.mem_cons.1 member with rfl | member
    · exact supported thread id happened
    · exact orderly.supported moment member thread id happened
  · intro moment member
    rcases List.mem_cons.1 member with rfl | member
    · exact orderly.agreed
    · exact orderly.counted moment member
  · intro id member
    rw [entries_noted, List.mem_append, Option.mem_toList] at member
    rcases member with new | old
    · exact entered id new
    · exact orderly.entered id old

/-- A moment at which no initializer is entered can always be recorded. -/
theorem noted_of_none (orderly : Orderly session) {event : Event}
    (none : event.entered? = none) : Later session (Recorded.noted event session) := by
  refine orderly.noted (fun thread id same => ?_) (fun id member => ?_) fun id member => ?_
  · rw [same] at none
    cases none
  · rw [none] at member
    cases member
  · rw [none] at member
    cases member

/-! ## The course of one initialization -/

section Course

variable {thread : ThreadId} {id : ClassId} {loaded : LoadedClass ι}

theorem superclass_of_extends (found : session.machine.area.class? id = some loaded)
    {superclass : ClassId} (inherits : session.machine.area.Extends id superclass) :
    superclass ∈ loaded.superclass := by
  rcases inherits with ⟨other, foundOther, above⟩
  rw [found] at foundOther
  cases foundOther
  exact above

/-- A class can be claimed once its superclass is ready. -/
theorem claimed (orderly : Orderly session)
    (found : session.machine.area.class? id = some loaded)
    (unstarted : loaded.progress = .notStarted)
    (ready : ∀ superclass ∈ loaded.superclass,
      session.machine.area.IsReady thread superclass) :
    Orderly (Recorded.claimed thread id loaded session) := by
  have stages := fun other => Area.progress_setProgress found (.inProgress thread) other
  refine orderly.proceed rfl (Area.advances_setProgress found ?_) ?_
    fun other superclass inherits started => ?_
  · rw [unstarted]
    exact .claim thread
  · have counts := Area.begun_setProgress found (.inProgress thread)
    have agreed := orderly.agreed
    unfold Machine.Counted at agreed ⊢
    cases hasInitializer : loaded.initializer.isSome with
    | true =>
      simp [Recorded.claimed, LoadedClass.hasBegun, hasInitializer, unstarted,
        Progress.isNotStarted, Metrics.countInitializer] at counts ⊢
      omega
    | false =>
      simp [Recorded.claimed, LoadedClass.hasBegun, hasInitializer] at counts ⊢
      omega
  · have inherited := Area.extends_setProgress inherits
    dsimp only [Recorded.claimed] at started ⊢
    rw [stages] at started ⊢
    by_cases here : id = superclass
    · rw [if_pos here]
      simp
    · rw [if_neg here]
      by_cases below : id = other
      · subst below
        exact (ready superclass (superclass_of_extends found inherited)).started
      · rw [if_neg below] at started
        exact orderly.climbing other superclass inherited started

/-- What an initializer finds when its class has been claimed. -/
theorem supports_claimed (orderly : Orderly session)
    (found : session.machine.area.class? id = some loaded)
    (unstarted : loaded.progress = .notStarted)
    (ready : ∀ superclass ∈ loaded.superclass,
      session.machine.area.IsReady thread superclass) :
    (Recorded.claimed thread id loaded session).machine.area.Supports thread id := by
  have after := orderly.claimed found unstarted ready
  have stages := fun other => Area.progress_setProgress found (.inProgress thread) other
  constructor
  · intro superclass inherits
    have inherited := Area.extends_setProgress inherits
    have before := ready superclass (superclass_of_extends found inherited)
    unfold Area.IsReady
    dsimp only [Recorded.claimed]
    rw [stages]
    split
    · exact Or.inr rfl
    · exact before
  · intro superclass chain
    induction chain with
    | single inherits =>
      apply after.climbing id _ inherits
      dsimp only [Recorded.claimed]
      rw [stages, if_pos rfl]
      simp
    | tail _ inherits inductiveStep => exact after.climbing _ _ inherits inductiveStep

/-- The initializer of a class that has just been claimed can be entered. -/
theorem enters (orderly : Orderly session)
    (found : session.machine.area.class? id = some loaded)
    (unstarted : loaded.progress = .notStarted)
    (ready : ∀ superclass ∈ loaded.superclass,
      session.machine.area.IsReady thread superclass) :
    Later (Recorded.claimed thread id loaded session)
      (Recorded.noted (.entered thread id) (Recorded.claimed thread id loaded session)) := by
  apply (orderly.claimed found unstarted ready).noted
  · rintro _ _ ⟨⟩
    exact orderly.supports_claimed found unstarted ready
  · rintro _ ⟨⟩ member
    apply orderly.entered id member
    rw [Area.progress_eq found, unstarted]
  · rintro _ ⟨⟩
    dsimp only [Recorded.claimed]
    rw [Area.progress_setProgress found, if_pos rfl]
    simp

/-- A class that is being initialized can be settled. -/
theorem settled (orderly : Orderly session)
    (found : session.machine.area.class? id = some loaded) {owner : ThreadId}
    (running : loaded.progress = .inProgress owner) {progress : Progress}
    (moves : Progress.Moves (.inProgress owner) progress) :
    Orderly (Recorded.staged id progress session) := by
  have stages := fun other => Area.progress_setProgress found progress other
  have started : progress ≠ .notStarted := by
    rintro rfl
    cases moves
  refine orderly.proceed rfl (Area.advances_setProgress found ?_) ?_
    fun other superclass inherits startedOther => ?_
  · rw [running]
    exact moves
  · have counts := Area.begun_setProgress found progress
    have same : ({ loaded with progress } : LoadedClass ι).hasBegun = loaded.hasBegun := by
      simp [LoadedClass.hasBegun, running, Progress.isNotStarted, started]
    have agreed := orderly.agreed
    unfold Machine.Counted at agreed ⊢
    rw [same] at counts
    dsimp only [Recorded.staged]
    omega
  · have inherited := Area.extends_setProgress inherits
    dsimp only [Recorded.staged] at startedOther ⊢
    rw [stages] at startedOther ⊢
    split
    · exact started
    · apply orderly.climbing other superclass inherited
      split at startedOther
      next here =>
        rw [← here, Area.progress_eq found, running]
        simp
      next => exact startedOther

end Course

end Orderly

section Course

variable {thread : ThreadId} {id : ClassId} {loaded : LoadedClass ι}

/-- A class that has been claimed is still being initialized later. -/
theorem Later.still (between : Later (claimed thread id loaded session) after)
    (found : session.machine.area.class? id = some loaded) :
    ∃ later, after.machine.area.class? id = some later ∧ later.progress = .inProgress thread := by
  have running : after.machine.area.progress id = .inProgress thread := by
    rw [between.running]
    dsimp only [claimed]
    rw [Area.progress_setProgress found, if_pos rfl]
  have started : after.machine.area.progress id ≠ .notStarted := by
    rw [running]
    simp
  rcases Area.class?_of_started started with ⟨later, foundLater⟩
  rw [Area.progress_eq foundLater] at running
  exact ⟨later, foundLater, running⟩

/-- The course of an initialization from the claim to the end, with whatever
happens in between.  In the end the class is not being initialized, and neither
was it in the beginning. -/
theorem Later.course (between : Later (claimed thread id loaded session) after)
    (found : session.machine.area.class? id = some loaded)
    (unstarted : loaded.progress = .notStarted) {progress : Progress}
    (moves : Progress.Moves (.inProgress thread) progress) :
    Later session (staged id progress after) := by
  rcases between.still found with ⟨later, foundLater, running⟩
  have claims : session.machine.area.Advances (claimed thread id loaded session).machine.area := by
    apply Area.advances_setProgress found
    rw [unstarted]
    exact .claim thread
  have ends : after.machine.area.Advances (staged id progress after).machine.area := by
    apply Area.advances_setProgress foundLater
    rw [running]
    exact moves
  exact ⟨between.orderly.settled foundLater running moves,
    trans_of Area.Advances (trans_of Area.Advances claims between.advances) ends,
    Area.running_settled found unstarted foundLater moves between.running⟩

end Course

end Recorded
end ClassRuntime

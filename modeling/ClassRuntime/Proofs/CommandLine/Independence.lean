import ClassRuntime.CommandLine.Report
import ClassRuntime.Proofs.Execution.Inquiry
import ClassRuntime.Proofs.Machine.Lockstep

namespace ClassRuntime
namespace CommandLine

/-!
# Reports do not depend on each other

The classes of a request are described one after another in one session, and each
description leaves behind the classes it has loaded and the mirrors it has made.  The
session in which a class is described is compared with the one of a program that
describes nothing else.  Both have come about from the boot path by loading and by
making mirrors, so that both descriptions are made in lockstep, one call of a native
after another.

The answers to the calls are kept until the last of them has been made, and only then
are the names of the classes in them looked up.  What is carried along is therefore a
list of references that stand for classes of the same names in the two sessions.
-/

/-- The area of a session that has done nothing. -/
def bootArea : Area Empty := .initial BootPath.definitions

/-- The session has done nothing to its area but loading and making mirrors. -/
def Evolves (before after : BootSession) : Prop :=
  Machine.Evolves bootArea before.machine after.machine

instance : IsPreorder BootSession Evolves where
  refl session := refl_of (Machine.Evolves bootArea) session.machine
  trans _ _ _ := trans_of (Machine.Evolves bootArea)

variable {α : Type} {session twin after twinAfter : BootSession} {thread : ThreadId}
  {mirror found : Object} {references others : List Reference} {name descriptor : String}

theorem lockstep_onMachine {action other : Action (Machine Empty) α}
    {post : Machine Empty → Machine Empty → α → α → Prop}
    (inner : Action.Lockstep (Machine.Evolves bootArea) session.machine twin.machine action other
      post) :
    Action.Lockstep Evolves session twin (Session.onMachine action) (Session.onMachine other)
      fun after twinAfter => post after.machine twinAfter.machine :=
  Action.Lockstep.within inner (fun _ _ evolves => evolves) fun _ _ => rfl

/-- A question about classes of the same name has related answers. -/
abbrev AnsweredAlike (question : ClassId → Action (Machine Empty) α)
    (post : Machine Empty → Machine Empty → α → α → Prop) : Prop :=
  ∀ {machine twin : Machine Empty} {id other : ClassId},
    Machine.Twins bootArea machine twin → machine.SameClass twin id other →
      Action.Lockstep (Machine.Evolves bootArea) machine twin (question id) (question other) post

/-- Mirrors have a native method of this name and descriptor. -/
def Listed (name descriptor : String) (native : Native Empty) : Prop :=
  (⟨ClassName.mirror, name, descriptor⟩, native) ∈
    (Native.builtins : List (MethodKey × Native Empty))

/-! ## What two sessions have been told -/

/-- Two sessions that put questions about classes of the same name, and that have been
given references which stand for classes of the same names. -/
structure Acquainted (mirror found : Object) (references others : List Reference)
    (session twin : BootSession) : Prop where
  twins : Machine.Twins bootArea session.machine twin.machine
  receiver : session.machine.SameMirror twin.machine mirror found
  same : List.Forall₂ (session.machine.SameReference twin.machine) references others

namespace Acquainted

theorem later (known : Acquainted mirror found references others session twin)
    (left : Evolves session after) (right : Evolves twin twinAfter) :
    Acquainted mirror found references others after twinAfter where
  twins := known.twins.later left right
  receiver := known.receiver.later left right
  same := known.same.imp fun _ _ same => same.later left right

theorem learn (known : Acquainted mirror found references others session twin)
    {more otherMore : List Reference}
    (told : List.Forall₂ (session.machine.SameReference twin.machine) more otherMore) :
    Acquainted mirror found (references ++ more) (others ++ otherMore) session twin :=
  { known with same := List.rel_append known.same told }

/-! ## Calls of natives -/

/-- The call of a native that puts a question. -/
theorem ask (known : Acquainted mirror found references others session twin)
    {question : ClassId → Action (Machine Empty) α} {value : α → Value}
    (listed : Listed name descriptor (Native.inquire question value))
    {post : Machine Empty → Machine Empty → α → α → Prop}
    (asked : AnsweredAlike question post) :
    Action.Lockstep Evolves session twin (CommandLine.ask thread mirror name descriptor)
      (CommandLine.ask thread found name descriptor) fun after twinAfter answer other =>
        Acquainted mirror found references others after twinAfter ∧
          ∃ result twinResult, post after.machine twinAfter.machine result twinResult ∧
            answer = value result ∧ other = value twinResult := by
  rcases known.receiver with ⟨id, other, mirrors, twinMirrors, same⟩
  have enough : 0 < executor.limit := by decide
  have counted : Action.Lockstep (Machine.Evolves bootArea) session.machine twin.machine
      (do
        Machine.count Metrics.countDispatch
        let result ← question id
        pure (some (value result)))
      (do
        Machine.count Metrics.countDispatch
        let result ← question other
        pure (some (value result)))
      fun after twinAfter answer other => ∃ result twinResult,
        post after twinAfter result twinResult ∧ answer = some (value result) ∧
          other = some (value twinResult) := by
    refine (Machine.lockstep_count Metrics.countDispatch).bind fun left right _ => ?_
    refine (asked (known.twins.later left right) (same.later left right)).bind fun _ _ told => ?_
    exact .pure ⟨_, _, told, rfl, rfl⟩
  refine Action.Lockstep.bind (.congr
    (executor.outcome_invoke_inquire Native.holds_builtinRegistry enough listed mirrors
      (Machine.Twins.isSome_left same))
    (executor.outcome_invoke_inquire Native.holds_builtinRegistry enough listed twinMirrors
      (Machine.Twins.isSome_right same)) (lockstep_onMachine counted)) fun left right told => ?_
  rcases told with ⟨result, twinResult, told, rfl, rfl⟩
  exact .pure ⟨known.later left right, result, twinResult, told, rfl, rfl⟩

/-- A native that answers with a reference to a class. -/
theorem askReference (known : Acquainted mirror found references others session twin)
    {question : ClassId → Action (Machine Empty) Reference}
    (listed : Listed name descriptor (Native.answerReference question))
    (asked : AnsweredAlike question Machine.SameReference) :
    Action.Lockstep Evolves session twin (CommandLine.ask thread mirror name descriptor)
      (CommandLine.ask thread found name descriptor) fun after twinAfter answer other =>
        Acquainted mirror found (references ++ [answerReference answer])
          (others ++ [answerReference other]) after twinAfter := by
  refine (known.ask listed asked).mono fun told => ?_
  rcases told with ⟨known, target, twinTarget, same, rfl, rfl⟩
  exact known.learn (.cons same .nil)

/-- A native that looks at the descriptor of a class. -/
theorem askDescriptor (known : Acquainted mirror found references others session twin)
    {question : TypeDescriptor → Value}
    (listed : Listed name descriptor (Native.answerDescriptor question))
    (same : ∀ {first second : Area Empty} {type otherType : TypeDescriptor},
      first.Alike second type otherType → question type = question otherType) :
    Action.Lockstep Evolves session twin (CommandLine.ask thread mirror name descriptor)
      (CommandLine.ask thread found name descriptor) fun after twinAfter answer other =>
        Acquainted mirror found references others after twinAfter ∧ answer = other := by
  have puts : Listed name descriptor
      (Native.inquire Machine.getClass fun loaded => question loaded.toTypeDescriptor) := listed
  refine (known.ask puts fun twins same => (twins.getClass same).mono And.right).mono
    fun told => ?_
  rcases told with ⟨known, loaded, twinLoaded, alike, rfl, rfl⟩
  exact ⟨known, same alike⟩

/-- A native that answers with an object it has made. -/
theorem askObject (known : Acquainted mirror found references others session twin)
    {question : ClassId → Action (Machine Empty) Object}
    (listed : Listed name descriptor (Native.answerReference fun id => some <$> question id))
    {post : Machine Empty → Machine Empty → Object → Object → Prop}
    (asked : AnsweredAlike question post) :
    Action.Lockstep Evolves session twin (CommandLine.ask thread mirror name descriptor)
      (CommandLine.ask thread found name descriptor) fun after twinAfter answer other =>
        Acquainted mirror found references others after twinAfter ∧
          ∃ object twinObject, post after.machine twinAfter.machine object twinObject ∧
            answerReference answer = some object ∧ answerReference other = some twinObject := by
  let refers (after twinAfter : Machine Empty) (target twinTarget : Reference) : Prop :=
    ∃ object twinObject, post after twinAfter object twinObject ∧ target = some object ∧
      twinTarget = some twinObject
  have referred : AnsweredAlike (fun id => some <$> question id) refers := fun twins same =>
    .map some ((asked twins same).mono fun told => ⟨_, _, told, rfl, rfl⟩)
  refine (known.ask listed referred).mono fun told => ?_
  rcases told with ⟨known, target, twinTarget, ⟨object, twinObject, told, rfl, rfl⟩, rfl, rfl⟩
  exact ⟨known, object, twinObject, told, rfl, rfl⟩

theorem askName (known : Acquainted mirror found references others session twin) :
    Action.Lockstep Evolves session twin
      (CommandLine.ask thread mirror "getName0" "()Ljava/lang/String;")
      (CommandLine.ask thread found "getName0" "()Ljava/lang/String;")
      fun after twinAfter answer other =>
        Acquainted mirror found references others after twinAfter ∧
          (answerReference answer).bind Object.content? =
            (answerReference other).bind Object.content? := by
  have listed : Listed "getName0" "()Ljava/lang/String;" Native.getName := by
    simp [Listed, Native.builtins, Native.declared]
  refine (known.askObject listed Machine.Twins.nameText).mono fun told => ?_
  rcases told with ⟨known, text, twinText, same, answered, twinAnswered⟩
  rw [answered, twinAnswered]
  exact ⟨known, same⟩

/-- The interfaces of a class become known. -/
theorem askInterfaces (known : Acquainted mirror found references others session twin) :
    Action.Lockstep Evolves session twin
      (CommandLine.ask thread mirror "getInterfaces0" "()[Ljava/lang/Class;")
      (CommandLine.ask thread found "getInterfaces0" "()[Ljava/lang/Class;")
      fun after twinAfter answer other => Acquainted mirror found
        (references ++ ((answerReference answer).bind Object.elements?).getD [])
        (others ++ ((answerReference other).bind Object.elements?).getD []) after twinAfter := by
  have listed : Listed "getInterfaces0" "()[Ljava/lang/Class;" Native.getInterfaces := by
    simp [Listed, Native.builtins, Native.declared]
  refine (known.askObject listed Machine.Twins.interfaces).mono fun told => ?_
  rcases told with ⟨known, array, twinArray, same, answered, twinAnswered⟩
  refine known.learn ?_
  rw [answered, twinAnswered, Option.bind_some, Option.bind_some]
  generalize array.elements? = elements at same ⊢
  generalize twinArray.elements? = twinElements at same ⊢
  cases same with
  | none => exact .nil
  | some same => exact same

theorem kindName (known : Acquainted mirror found references others session twin) :
    Action.Lockstep Evolves session twin (CommandLine.kindName thread mirror)
      (CommandLine.kindName thread found) fun after twinAfter kind other =>
        Acquainted mirror found references others after twinAfter ∧ kind = other := by
  have primitive : Listed "isPrimitive" "()Z" Native.isPrimitive := by
    simp [Listed, Native.builtins, Native.declared]
  have array : Listed "isArray" "()Z" Native.isArray := by
    simp [Listed, Native.builtins, Native.declared]
  have interface : Listed "isInterface" "()Z" Native.isInterface := by
    simp [Listed, Native.builtins, Native.declared]
  have ofKind {first second : Area Empty} {type otherType : TypeDescriptor} (kind : Kind)
      (alike : first.Alike second type otherType) :
      Value.ofBool (type.kind = kind) = Value.ofBool (otherType.kind = kind) := by
    rw [alike.kind]
  refine (known.askDescriptor primitive (ofKind .primitive)).bind fun _ _ told => ?_
  rcases told with ⟨known, rfl⟩
  split
  · exact .pure ⟨known, rfl⟩
  refine (known.askDescriptor array (ofKind .array)).bind fun _ _ told => ?_
  rcases told with ⟨known, rfl⟩
  split
  · exact .pure ⟨known, rfl⟩
  refine (known.askDescriptor interface (ofKind .interface)).bind fun _ _ told => ?_
  rcases told with ⟨known, rfl⟩
  split
  · exact .pure ⟨known, rfl⟩
  · exact .pure ⟨known, rfl⟩

end Acquainted

/-! ## Descriptions -/

theorem outcome_mirroredName {id : ClassId} {loaded : LoadedClass Empty}
    (mirrors : mirror.mirrored? = some id) (place : session.machine.area.class? id = some loaded) :
    (mirroredName (some mirror)).outcome session = (.ok loaded.binaryName, session) := by
  simp only [mirroredName, Option.bind_some, mirrors]
  rw [Action.outcome_bind, Session.outcome_getClass place]
  rfl

theorem lockstep_mirroredName (twins : Machine.Twins bootArea session.machine twin.machine)
    {reference other : Reference}
    (same : session.machine.SameReference twin.machine reference other) :
    Action.Lockstep Evolves session twin (mirroredName reference) (mirroredName other)
      fun after twinAfter name other => after = session ∧ twinAfter = twin ∧ name = other := by
  cases same with
  | none => exact .pure ⟨rfl, rfl, rfl⟩
  | some same =>
    rcases same with ⟨id, other, mirrors, twinMirrors, same⟩
    rcases twins.unused.alike twins.left.grown twins.right.grown same with
      ⟨loaded, found, place, twinPlace, alike⟩
    exact .of_ok (outcome_mirroredName mirrors place) (outcome_mirroredName twinMirrors twinPlace)
      (refl_of Evolves session) (refl_of Evolves twin) ⟨rfl, rfl, alike.binaryName⟩

theorem lockstep_mirroredNames (twins : Machine.Twins bootArea session.machine twin.machine)
    (same : List.Forall₂ (session.machine.SameReference twin.machine) references others) :
    Action.Lockstep Evolves session twin (mirroredNames references) (mirroredNames others)
      fun after twinAfter names others => after = session ∧ twinAfter = twin ∧ names = others := by
  induction same with
  | nil => exact .pure ⟨rfl, rfl, rfl⟩
  | cons first _ inductiveStep =>
    refine (lockstep_mirroredName twins first).bind fun _ _ told => ?_
    rcases told with ⟨rfl, rfl, rfl⟩
    refine inductiveStep.bind fun _ _ told => ?_
    rcases told with ⟨rfl, rfl, rfl⟩
    exact .pure ⟨rfl, rfl, rfl⟩

/-- The class of a name is described alike. -/
theorem lockstep_describe (twins : Machine.Twins bootArea session.machine twin.machine)
    (name : String) :
    Action.Lockstep Evolves session twin (describe thread name) (describe thread name)
      fun _ _ description other => description = other := by
  refine (lockstep_onMachine (twins.resolve name)).bind fun left right same => ?_
  have twins := twins.later left right
  refine (lockstep_onMachine (twins.mirrorOf same)).bind fun {_ _ mirror found} left right
    receiver => ?_
  have known : Acquainted mirror found [] [] _ _ := ⟨twins.later left right, receiver, .nil⟩
  refine known.askName.bind fun _ _ told => ?_
  rcases told with ⟨known, named⟩
  have listed : Listed "getModifiers" "()I" Native.getModifiers := by
    simp [Listed, Native.builtins, Native.declared]
  refine (known.askDescriptor listed fun alike => by rw [alike.flags]).bind fun _ _ told => ?_
  rcases told with ⟨known, rfl⟩
  have listed : Listed "getSuperclass" "()Ljava/lang/Class;" Native.getSuperclass := by
    simp [Listed, Native.builtins, Native.declared]
  refine (known.askReference listed Machine.Twins.superclass).bind fun _ _ known => ?_
  have listed : Listed "getComponentType" "()Ljava/lang/Class;" Native.getComponentType := by
    simp [Listed, Native.builtins, Native.declared]
  refine (known.askReference listed Machine.Twins.componentType).bind fun _ _ known => ?_
  have listed : Listed "getDeclaringClass0" "()Ljava/lang/Class;" Native.getDeclaringClass := by
    simp [Listed, Native.builtins, Native.declared]
  refine (known.askReference listed Machine.Twins.declaringClass).bind fun _ _ known => ?_
  refine known.askInterfaces.bind fun _ _ known => ?_
  refine known.kindName.bind fun _ _ told => ?_
  rcases told with ⟨⟨twins, _, same⟩, rfl⟩
  -- The references are known in the order of the calls, the interfaces last.
  rcases same with _ | ⟨superclass, _ | ⟨component, _ | ⟨declaring, interfaces⟩⟩⟩
  refine (lockstep_mirroredName twins superclass).bind fun _ _ told => ?_
  rcases told with ⟨rfl, rfl, rfl⟩
  refine (lockstep_mirroredNames twins interfaces).bind fun _ _ told => ?_
  rcases told with ⟨rfl, rfl, rfl⟩
  refine (lockstep_mirroredName twins component).bind fun _ _ told => ?_
  rcases told with ⟨rfl, rfl, rfl⟩
  refine (lockstep_mirroredName twins declaring).bind fun _ _ told => ?_
  rcases told with ⟨rfl, rfl, rfl⟩
  rw [named]
  exact .pure rfl

/-! ## Requests -/

theorem reflective_bootArea : bootArea.Reflective := by
  have found : ((Area.load .bootstrap .mirror).outcome bootArea).1.toOption.isSome := by
    decide +kernel
  rcases loads : ((Area.load .bootstrap .mirror).outcome bootArea).1 with fault | type
  · rw [loads] at found
    cases found
  · exact ⟨type, loads⟩

theorem twins_of_evolved (left : bootArea.Evolved session.machine.area)
    (right : bootArea.Evolved twin.machine.area) :
    Machine.Twins bootArea session.machine twin.machine :=
  ⟨.initial BootPath.definitions, reflective_bootArea, left, right⟩

/-- The session of a program that has described nothing so far. -/
def begun : BootSession := ((Session.onMachine Machine.attach).outcome start).2

/-- What comes of describing a class after others have been described. -/
def resultAfter (earlier : List String) (name : String) : Except Fault Description :=
  let action := do
    let thread ← Session.onMachine Machine.attach
    let _ ← describeAll thread earlier
    describe thread name
  (action.outcome start).1

/-- The outputs for classes that are described alone, one after another. -/
def outputsApart : List String → Output
  | [] => ⟨"", "", false⟩
  | name :: rest => (outputFor name (resultAfter [] name)).append (outputsApart rest)

theorem evolved_begun : bootArea.Evolved begun.machine.area where
  grown := Area.Unused.grown (.initial BootPath.definitions)
  mirrored := Area.mirrored_initial BootPath.definitions

theorem outcome_attach_bind (next : ThreadId → Action BootSession α) :
    (Session.onMachine Machine.attach >>= next).outcome start = (next ⟨1⟩).outcome begun := by
  have attached : (Session.onMachine Machine.attach).outcome start = (.ok ⟨1⟩, begun) := rfl
  rw [Action.outcome_bind, attached]

theorem resultAfter_nil (name : String) :
    resultAfter [] name = ((describe ⟨1⟩ name).outcome begun).1 := by
  rw [resultAfter, outcome_attach_bind]
  rfl

theorem describe_apart (evolved : bootArea.Evolved session.machine.area) (name : String) :
    ((describe ⟨1⟩ name).outcome session).1 = resultAfter [] name ∧
      bootArea.Evolved ((describe ⟨1⟩ name).outcome session).2.machine.area := by
  rcases lockstep_describe (twins_of_evolved evolved evolved_begun) name with ⟨left, _, agree⟩
  refine ⟨?_, left.evolved evolved⟩
  rw [resultAfter_nil]
  exact agree.same

theorem describeAll_apart (evolved : bootArea.Evolved session.machine.area)
    (names : List String) :
    ∃ after, (describeAll ⟨1⟩ names).outcome session = (.ok (outputsApart names), after) ∧
      bootArea.Evolved after.machine.area := by
  induction names generalizing session with
  | nil => exact ⟨session, rfl, evolved⟩
  | cons name rest inductiveStep =>
    rcases describe_apart evolved name with ⟨same, later⟩
    rcases inductiveStep later with ⟨after, others, last⟩
    refine ⟨after, ?_, last⟩
    rw [describeAll, Action.outcome_bind, Action.outcome_attempt]
    dsimp only
    rw [Action.outcome_bind, others, same]
    rfl

theorem describeFresh_eq (names : List String) : describeFresh names = outputsApart names := by
  rcases describeAll_apart evolved_begun names with ⟨after, ended, _⟩
  rw [describeFresh, outcome_attach_bind, ended]

theorem describeFresh_single (name : String) :
    describeFresh [name] = outputFor name (resultAfter [] name) := by
  rw [describeFresh_eq, outputsApart, outputsApart, Output.append, String.append_empty,
    String.append_empty, Bool.or_false]

theorem describeFresh_apart (names : List String) : describeFresh names = {
    stdout := String.join (names.map fun name => (describeFresh [name]).stdout)
    stderr := String.join (names.map fun name => (describeFresh [name]).stderr)
    failed := names.any fun name => (describeFresh [name]).failed } := by
  rw [describeFresh_eq]
  induction names with
  | nil => rfl
  | cons name rest inductiveStep =>
    rw [outputsApart, inductiveStep, ← describeFresh_single, List.map_cons, List.map_cons,
      List.any_cons, String.join_cons, String.join_cons]
    rfl

/-- A class is described after any others as it is described alone, or refused with
the same error of the runtime. -/
theorem resultAfter_eq (earlier : List String) (name : String) :
    resultAfter earlier name = resultAfter [] name ∧
      ((∃ description, resultAfter earlier name = .ok description) ∨
        ∃ cause, resultAfter earlier name = .error (.error cause)) := by
  rcases describeAll_apart evolved_begun earlier with ⟨after, ended, evolved⟩
  have described : resultAfter earlier name = ((describe ⟨1⟩ name).outcome after).1 := by
    rw [resultAfter, outcome_attach_bind, Action.outcome_bind, ended]
  rw [described]
  refine ⟨(describe_apart evolved name).1, ?_⟩
  exact (lockstep_describe (twins_of_evolved evolved evolved) name).agree.isOk_or_error

/-- The report on a list of classes is made up of the reports on each of them alone,
and no class is described differently, or brings the program down, because of those
described before. -/
theorem Request.describe_independent (list : Bool) (names : List String) :
    let alone (name : String) : Report := (Request.describe false [name]).report
    (Request.describe list names).report = {
        exitCode := if ∃ name ∈ names, (alone name).exitCode ≠ 0 then 1 else 0
        stdout := (if list then listing else "") ++
          String.join (names.map fun name => (alone name).stdout)
        stderr := (names.mapM fun name => (alone name).stderr).map String.join } ∧
      ∀ earlier name, resultAfter earlier name = resultAfter [] name ∧
        describeFresh [name] = outputFor name (resultAfter earlier name) ∧
        ((∃ description, resultAfter earlier name = .ok description) ∨
          ∃ cause, resultAfter earlier name = .error (.error cause)) := by
  intro alone
  constructor
  · have written (name : String) : (alone name).stdout = (describeFresh [name]).stdout :=
      String.empty_append
    have reported : (names.mapM fun name => (alone name).stderr) =
        some (names.map fun name => (describeFresh [name]).stderr) := List.mapM_pure
    have fails (name : String) : (alone name).exitCode ≠ 0 ↔ (describeFresh [name]).failed := by
      change (if (describeFresh [name]).failed then 1 else 0) ≠ 0 ↔ _
      split
      next failed => exact iff_of_true Nat.one_ne_zero failed
      next fine => exact iff_of_false (fun other => other rfl) fine
    simp only [written, reported, fails, Option.map_some]
    rw [Request.report, describeFresh_apart names]
    simp only [List.any_eq_true]
  · intro earlier name
    rcases resultAfter_eq earlier name with ⟨same, ends⟩
    refine ⟨same, ?_, ends⟩
    rw [same]
    exact describeFresh_single name

end CommandLine
end ClassRuntime

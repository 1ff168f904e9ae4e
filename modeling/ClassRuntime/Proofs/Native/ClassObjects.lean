import ClassRuntime.Proofs.Machine.Reflection
import ClassRuntime.Proofs.Native.Conformance

namespace ClassRuntime
namespace Native

/-!
# Natives that hand out class objects

Seven natives give class objects to a program, as their answer or within the array that
is their answer.  None of them is ever put off.  What they give is, for each class
concerned, the object that stands for it, and not only at the time of the answer: a
program may keep it and compare it with what it is given later.
-/

variable {ι α : Type} {key : MethodKey} {native : Native ι} {site : CallSite}
  {machine : Machine ι} {invocation after : Invocation ι} {outcome : Outcome}

/-- The methods whose answers hold class objects. -/
def classMethods : List MethodKey :=
  [⟨.object, "getClass", "()Ljava/lang/Class;"⟩,
    ⟨.mirror, "getPrimitiveClass", "(Ljava/lang/String;)Ljava/lang/Class;"⟩,
    ⟨.mirror, "getSuperclass", "()Ljava/lang/Class;"⟩,
    ⟨.mirror, "getComponentType", "()Ljava/lang/Class;"⟩,
    ⟨.mirror, "getDeclaringClass0", "()Ljava/lang/Class;"⟩,
    ⟨.mirror, "getInterfaces0", "()[Ljava/lang/Class;"⟩,
    ⟨.mirror, "getEnclosingMethod0", "()[Ljava/lang/Object;"⟩]

/-- What the answer of a method is, given the classes before the call and the machine
after it.  A method of a class speaks of the class that its receiver mirrors. -/
inductive Answers (site : CallSite) (before : Area ι) (after : Machine ι) :
    MethodKey → Reference → Prop
  | objectClass {object mirror : Object} (passed : site.arguments.reference 0 = .ok (some object))
      (stands : after.Stands (.mirror object.type) mirror) :
      Answers site before after ⟨.object, "getClass", "()Ljava/lang/Class;"⟩ (some mirror)
  | primitiveClass {object mirror : Object} {keyword : String} {id : ClassId}
      (passed : site.arguments.reference 0 = .ok (some object))
      (read : object.content? = some keyword) (known : before.primitiveClass? keyword = some id)
      (stands : after.Stands (.mirror id) mirror) :
      Answers site before after
        ⟨.mirror, "getPrimitiveClass", "(Ljava/lang/String;)Ljava/lang/Class;"⟩ (some mirror)
  | superclass {id : ClassId} {loaded : LoadedClass ι} {target : Reference}
      (receives : site.receiver? = some id) (found : before.class? id = some loaded)
      (shows : after.ShowsAny loaded.superclass target) :
      Answers site before after ⟨.mirror, "getSuperclass", "()Ljava/lang/Class;"⟩ target
  | component {id : ClassId} {loaded : LoadedClass ι} {target : Reference}
      (receives : site.receiver? = some id) (found : before.class? id = some loaded)
      (shows : after.ShowsAny loaded.component target) :
      Answers site before after ⟨.mirror, "getComponentType", "()Ljava/lang/Class;"⟩ target
  /-- The owner of a member is what its loader finds under the name. -/
  | declaring {id : ClassId} {loaded : LoadedClass ι} {target : Reference}
      (receives : site.receiver? = some id) (found : before.class? id = some loaded)
      (shows : Option.Rel (fun name mirror =>
        ∃ owner, after.area.lookup? id.loader name = some owner ∧
          after.Stands (.mirror owner) mirror) loaded.declaringName? target) :
      Answers site before after ⟨.mirror, "getDeclaringClass0", "()Ljava/lang/Class;"⟩ target
  | interfaces {id : ClassId} {loaded : LoadedClass ι} {array : Object}
      {elements : List Reference} (receives : site.receiver? = some id)
      (found : before.class? id = some loaded) (held : array.elements? = some elements)
      (shows : List.Forall₂ after.Shows loaded.interfaces elements) :
      Answers site before after ⟨.mirror, "getInterfaces0", "()[Ljava/lang/Class;"⟩ (some array)
  /-- The enclosing class is the first of three elements. -/
  | enclosing {id : ClassId} {loaded : LoadedClass ι} {target : Reference}
      (receives : site.receiver? = some id) (found : before.class? id = some loaded)
      (shows : Option.Rel (fun enclosure array => ∃ owner mirror name descriptor,
        after.area.lookup? id.loader enclosure.owner = some owner ∧
          array.elements? = some [some mirror, name, descriptor] ∧
          after.Stands (.mirror owner) mirror) loaded.enclosure target) :
      Answers site before after ⟨.mirror, "getEnclosingMethod0", "()[Ljava/lang/Object;"⟩ target

theorem Answers.of_superclass {before : Area ι} {last : Machine ι} {target : Reference}
    (answers : Answers site before last ⟨.mirror, "getSuperclass", "()Ljava/lang/Class;"⟩ target) :
    ∃ id loaded, site.receiver? = some id ∧ before.class? id = some loaded ∧
      last.ShowsAny loaded.superclass target := by
  generalize named : (⟨.mirror, "getSuperclass", "()Ljava/lang/Class;"⟩ : MethodKey) = key
    at answers
  cases answers with
  | superclass receives found shows => exact ⟨_, _, receives, found, shows⟩
  | _ => exact absurd named (by decide)

/-- If the native gives an answer at all, it gives it at once, and it is the one of the
method. -/
def HandsOut (key : MethodKey) (native : Native ι) : Prop :=
  ∀ site machine outcome after, (native site).outcome ⟨machine, .empty⟩ = (.ok outcome, after) →
    outcome = .complete ∧ ∃ target, after.operands = Operands.empty.push (.reference target) ∧
      Answers site machine.area after.machine key target

/-! ## The parts of a native -/

theorem answered_of_onMachine {question : Action (Machine ι) α} {value : α → Value}
    (ended : (do
      let result ← onMachine question
      answer (value result)).outcome invocation = (.ok outcome, after)) :
    ∃ result, question.outcome invocation.machine = (.ok result, after.machine) ∧
      outcome = .complete ∧ after.operands = invocation.operands.push (value result) := by
  rcases Action.bind_ok ended with ⟨result, middle, asked, answered⟩
  have untouched : (onMachine question).Within Invocation.Untouched := fun _ => rfl
  have same : middle.operands = invocation.operands := untouched.related asked
  have told := onMachine_ok asked
  cases answered
  exact ⟨result, told, rfl, congrArg (Operands.push · (value result)) same⟩

/-- A native that asks a question about its receiver hands out what it is told. -/
theorem handsOut_answerReference {question : ClassId → Action (Machine ι) Reference}
    (told : ∀ {site id machine target after}, site.receiver? = some id →
      (question id).outcome machine = (.ok target, after) →
        Answers site machine.area after key target) :
    (answerReference question).HandsOut key := by
  intro site machine outcome after ended
  rcases Action.bind_ok ended with ⟨id, middle, received, rest⟩
  rcases receiver?_of_receiver received with ⟨rfl, receives⟩
  rcases answered_of_onMachine rest with ⟨target, asked, complete, pushed⟩
  exact ⟨complete, target, pushed, told receives asked⟩

/-! ## The seven natives -/

theorem handsOut_getClass :
    (getClass : Native ι).HandsOut ⟨.object, "getClass", "()Ljava/lang/Class;"⟩ := by
  intro site machine outcome after ended
  rcases Action.bind_ok ended with ⟨target, middle, read, rest⟩
  rcases reference_ok read with ⟨rfl, passed⟩
  cases target with
  | none => cases rest
  | some object =>
    rcases Action.bind_ok rest with ⟨seen, middle, looked, last⟩
    cases looked
    split at last
    next => cases last
    next =>
      rcases answered_of_onMachine last with ⟨mirror, asked, complete, pushed⟩
      exact ⟨complete, some mirror, pushed, .objectClass passed (Machine.stands_of_mirrorOf asked)⟩

theorem handsOut_getPrimitiveClass : (getPrimitiveClass : Native ι).HandsOut
    ⟨.mirror, "getPrimitiveClass", "(Ljava/lang/String;)Ljava/lang/Class;"⟩ := by
  intro site machine outcome after ended
  rcases Action.bind_ok ended with ⟨target, middle, read, rest⟩
  rcases reference_ok read with ⟨rfl, passed⟩
  cases target with
  | none => cases rest
  | some object =>
    dsimp only at rest
    split at rest
    next => cases rest
    next keyword content =>
      rcases Action.bind_ok rest with ⟨seen, middle, looked, last⟩
      cases looked
      split at last
      next => cases last
      next id known =>
        rcases answered_of_onMachine last with ⟨mirror, asked, complete, pushed⟩
        exact ⟨complete, some mirror, pushed,
          .primitiveClass passed content known (Machine.stands_of_mirrorOf asked)⟩

theorem handsOut_getSuperclass : (getSuperclass : Native ι).HandsOut
    ⟨.mirror, "getSuperclass", "()Ljava/lang/Class;"⟩ := by
  refine handsOut_answerReference fun receives asked => ?_
  rcases Machine.showsAny_of_superclass asked with ⟨loaded, found, shows⟩
  exact .superclass receives found shows

theorem handsOut_getComponentType : (getComponentType : Native ι).HandsOut
    ⟨.mirror, "getComponentType", "()Ljava/lang/Class;"⟩ := by
  refine handsOut_answerReference fun receives asked => ?_
  rcases Machine.showsAny_of_componentType asked with ⟨loaded, found, shows⟩
  exact .component receives found shows

theorem handsOut_getDeclaringClass : (getDeclaringClass : Native ι).HandsOut
    ⟨.mirror, "getDeclaringClass0", "()Ljava/lang/Class;"⟩ := by
  refine handsOut_answerReference fun receives asked => ?_
  rcases Machine.stands_of_declaringClass asked with ⟨loaded, found, shows⟩
  exact .declaring receives found shows

theorem handsOut_getInterfaces : (getInterfaces : Native ι).HandsOut
    ⟨.mirror, "getInterfaces0", "()[Ljava/lang/Class;"⟩ := by
  refine handsOut_answerReference fun receives asked => ?_
  rw [map_eq_pure_bind] at asked
  rcases Action.bind_ok asked with ⟨array, last, made, given⟩
  cases given
  rcases Machine.shows_of_interfaces made with ⟨loaded, elements, found, held, shows⟩
  exact .interfaces receives found held shows

theorem handsOut_getEnclosingMethod : (getEnclosingMethod : Native ι).HandsOut
    ⟨.mirror, "getEnclosingMethod0", "()[Ljava/lang/Object;"⟩ := by
  refine handsOut_answerReference fun receives asked => ?_
  rcases Machine.stands_of_enclosingMethod asked with ⟨loaded, found, shows⟩
  exact .enclosing receives found shows

theorem handsOut_builtin (listed : (key, native) ∈ (builtins : List (MethodKey × Native ι)))
    (handing : key ∈ classMethods) : native.HandsOut key := by
  simp only [classMethods, List.mem_cons, List.not_mem_nil, or_false] at handing
  rcases handing with rfl | rfl | rfl | rfl | rfl | rfl | rfl <;>
    simp [builtins, declared] at listed <;> subst listed
  · exact handsOut_getClass
  · exact handsOut_getPrimitiveClass
  · exact handsOut_getSuperclass
  · exact handsOut_getComponentType
  · exact handsOut_getDeclaringClass
  · exact handsOut_getInterfaces
  · exact handsOut_getEnclosingMethod

theorem listed_of_classMethods (handing : key ∈ classMethods) :
    ∃ native, (key, native) ∈ (builtins : List (MethodKey × Native ι)) := by
  simp only [classMethods, List.mem_cons, List.not_mem_nil, or_false] at handing
  rcases handing with rfl | rfl | rfl | rfl | rfl | rfl | rfl <;> simp [builtins, declared]

end Native
end ClassRuntime

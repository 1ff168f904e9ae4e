import ClassRuntime.Proofs.MethodDescriptor.Slices

namespace ClassRuntime
namespace MethodDescriptor

/-!
# Descriptors as texts

The parameters of a descriptor end at the first closing parenthesis, before any type
is looked at.  So a class name in the parameters must not have one, while in the
result it may, and there a bracket, an opening parenthesis or the letter of another
type does no harm either.  Descriptors whose names keep to this are those that are
read, each from exactly one text, the one it prints.
-/

/-- Whether the descriptor can be told from what it prints. -/
structure Legible (descriptor : MethodDescriptor) : Prop where
  parameters : ∀ type ∈ descriptor.parameters, ∀ name ∈ type.names,
    name ≠ "" ∧ ';' ∉ name.toList ∧ ')' ∉ name.toList
  result : ∀ type ∈ descriptor.result, ∀ name ∈ type.names, name ≠ "" ∧ ';' ∉ name.toList

instance (descriptor : MethodDescriptor) : Decidable descriptor.Legible :=
  decidable_of_iff
    ((∀ type ∈ descriptor.parameters, ∀ name ∈ type.names,
        name ≠ "" ∧ ';' ∉ name.toList ∧ ')' ∉ name.toList) ∧
      ∀ type ∈ descriptor.result, ∀ name ∈ type.names, name ≠ "" ∧ ';' ∉ name.toList)
    ⟨fun ⟨parameters, result⟩ => ⟨parameters, result⟩,
      fun legible => ⟨legible.parameters, legible.result⟩⟩

theorem legible_iff {descriptor : MethodDescriptor} :
    descriptor.Legible ↔
      ((∀ type ∈ descriptor.parameters, type.Delimited) ∧
        ')' ∉ descriptor.parameters.flatMap FieldType.characters) ∧
      ∀ type ∈ descriptor.result, type.Delimited := by
  constructor
  · intro legible
    refine ⟨⟨?_, ?_⟩, legible.result⟩
    · intro type member name found
      obtain ⟨nonempty, noEnd, _⟩ := legible.parameters type member name found
      exact ⟨nonempty, noEnd⟩
    · intro close
      obtain ⟨type, member, inside⟩ := List.mem_flatMap.1 close
      obtain ⟨name, found, within⟩ := FieldType.close_mem_characters.1 inside
      exact (legible.parameters type member name found).2.2 within
  · rintro ⟨⟨delimited, unclosed⟩, result⟩
    refine ⟨?_, result⟩
    intro type member name found
    obtain ⟨nonempty, noEnd⟩ := delimited type member name found
    refine ⟨nonempty, noEnd, ?_⟩
    intro within
    refine unclosed (List.mem_flatMap.2 ⟨type, member, ?_⟩)
    exact FieldType.close_mem_characters.2 ⟨name, found, within⟩

theorem readResult_eq_ok_none_iff {text : List Char} :
    readResult text = .ok none ↔ text = ['V'] := by
  unfold readResult
  split
  next void => simp [void]
  next notVoid => split <;> simp [notVoid]

/-- The letter of `void` begins no type, so the order of the two tests does not matter. -/
theorem readResult_eq_ok_some_iff {text : List Char} {type : FieldType} :
    readResult text = .ok (some type) ↔ FieldType.parse? text = some (type, []) := by
  unfold readResult
  split
  next void =>
    have unread : FieldType.parse? ['V'] = none := rfl
    simp [void, unread]
  next => split <;> simp [*]

theorem readResult_eq_ok_iff {text : List Char} {result : Option FieldType} :
    readResult text = .ok result ↔
      text = resultCharacters result ∧ ∀ type ∈ result, type.Delimited := by
  cases result with
  | none => simp [readResult_eq_ok_none_iff, resultCharacters]
  | some type =>
    simp [readResult_eq_ok_some_iff, FieldType.parse?_eq_some_iff, resultCharacters]

/-- The characters of a descriptor. -/
def characters (descriptor : MethodDescriptor) : List Char :=
  '(' :: descriptor.parameters.flatMap FieldType.characters ++
    ')' :: resultCharacters descriptor.result

theorem toList_text (descriptor : MethodDescriptor) :
    descriptor.text.toList = descriptor.characters :=
  String.toList_ofList

theorem read_characters {descriptor : MethodDescriptor} (legible : descriptor.Legible) :
    read descriptor.characters = .ok descriptor := by
  obtain ⟨⟨delimited, unclosed⟩, result⟩ := legible_iff.1 legible
  have split := Text.splitFirst_append ')' _ (resultCharacters descriptor.result) unclosed
  rw [characters, List.cons_append, read, split]
  dsimp only
  rw [FieldType.parseAll?_eq_some_iff.2 ⟨rfl, delimited⟩]
  dsimp only
  rw [readResult_eq_ok_iff.2 ⟨rfl, result⟩]
  rfl

theorem characters_of_read {text : List Char} {descriptor : MethodDescriptor}
    (known : read text = .ok descriptor) :
    text = descriptor.characters ∧ descriptor.Legible := by
  unfold read at known
  split at known
  next rest =>
    split at known
    next => cases known
    next before after cut =>
      split at known
      next => cases known
      next parameters read =>
        cases answer : readResult after with
        | error flaw => rw [answer] at known; cases known
        | ok result =>
          rw [answer] at known
          cases known
          obtain ⟨shape, unclosed⟩ := Text.eq_of_splitFirst cut
          obtain ⟨rfl, delimited⟩ := FieldType.parseAll?_eq_some_iff.1 read
          obtain ⟨rfl, ends⟩ := readResult_eq_ok_iff.1 answer
          refine ⟨?_, legible_iff.2 ⟨⟨delimited, unclosed⟩, ends⟩⟩
          rw [shape, characters, List.cons_append]
  next => cases known

theorem parse_eq_ok_iff {text : String} {descriptor : MethodDescriptor} :
    parse text = .ok descriptor ↔ descriptor.text = text ∧ descriptor.Legible := by
  constructor
  · intro parsed
    unfold parse at parsed
    cases known : read text.toList with
    | error flaw => rw [known] at parsed; cases parsed
    | ok answer =>
      rw [known] at parsed
      cases parsed
      obtain ⟨shape, legible⟩ := characters_of_read known
      refine ⟨?_, legible⟩
      rw [← String.toList_inj, toList_text, shape]
  · rintro ⟨rfl, legible⟩
    rw [parse, toList_text, read_characters legible]
    rfl

/-- Whatever is wrong with a text, the message names the whole of it. -/
theorem parse_eq_error {text : String} {cause : RuntimeError}
    (rejected : parse text = .error cause) :
    ∃ flaw : Flaw, cause = .malformedDescriptor text flaw.reason := by
  unfold parse at rejected
  cases known : read text.toList with
  | error flaw =>
    rw [known] at rejected
    cases rejected
    exact ⟨flaw, rfl⟩
  | ok answer => rw [known] at rejected; cases rejected

/-- Reading and printing undo each other.  What is not printed by any descriptor is
rejected as a whole, and no text, whatever its characters, is cut within a character. -/
theorem parse_text_inverse (text : String) (descriptor : MethodDescriptor) :
    (parse text = .ok descriptor → descriptor.text = text) ∧
    (descriptor.Legible → parse descriptor.text = .ok descriptor) ∧
    ((∃ read, parse text = .ok read) ↔ ∃ printed : MethodDescriptor,
      printed.Legible ∧ printed.text = text) ∧
    ((¬ ∃ printed : MethodDescriptor, printed.Legible ∧ printed.text = text) →
      ∃ flaw : Flaw, parse text = .error (.malformedDescriptor text flaw.reason)) ∧
    parseSlices? text = some (parse text) := by
  have accepted : (∃ read, parse text = .ok read) ↔ ∃ printed : MethodDescriptor,
      printed.Legible ∧ printed.text = text := by
    simp only [parse_eq_ok_iff, and_comm]
  refine ⟨?_, ?_, accepted, ?_, parseSlices?_eq text⟩
  · intro parsed
    exact (parse_eq_ok_iff.1 parsed).1
  · intro legible
    exact parse_eq_ok_iff.2 ⟨rfl, legible⟩
  · intro unprinted
    cases parsed : parse text with
    | ok read => exact absurd (accepted.1 ⟨read, parsed⟩) unprinted
    | error cause =>
      obtain ⟨flaw, rfl⟩ := parse_eq_error parsed
      exact ⟨flaw, rfl⟩

/-- A parenthesis in the name of a parameter ends the parameters. -/
theorem parse_text_inverse_parentheses :
    let descriptor : MethodDescriptor :=
      ⟨[.base .int, .array (.object "é(J")], some (.array (.object "a)[b"))⟩
    descriptor.Legible ∧ descriptor.text = "(I[Lé(J;)[La)[b;" ∧
    parse "(I[Lé(J;)[La)[b;" = .ok descriptor ∧
    (∃ flaw : Flaw, parse "([La)b;)V" = .error (.malformedDescriptor "([La)b;)V" flaw.reason)) ∧
    parseSlices? "([La)b;)V" = some (parse "([La)b;)V") := by
  intro descriptor
  have legible : descriptor.Legible := by decide
  have spelled : descriptor.text = "(I[Lé(J;)[La)[b;" := by decide
  have parsed := (parse_text_inverse descriptor.text descriptor).2.1 legible
  have printed := (parse_text_inverse descriptor.text descriptor).1 parsed
  have unprinted : ¬ ∃ printed : MethodDescriptor,
      printed.Legible ∧ printed.text = "([La)b;)V" := by
    intro known
    obtain ⟨read, accepted⟩ := (parse_text_inverse "([La)b;)V" default).2.2.1.2 known
    have shape : "([La)b;)V".toList = '(' :: ("[La".toList ++ ')' :: "b;)V".toList) := by decide
    have unended : FieldType.parseAll? "[La".toList = none :=
      FieldType.parseAll?_of_parse?_none (by decide) (by decide)
    rw [parse, shape, MethodDescriptor.read, Text.splitFirst_append ')' _ _ (by decide)] at accepted
    dsimp only at accepted
    rw [unended] at accepted
    cases accepted
  have rejected := (parse_text_inverse "([La)b;)V" default).2.2.2.1 unprinted
  exact ⟨legible, spelled, spelled ▸ parsed, rejected,
    (parse_text_inverse "([La)b;)V" default).2.2.2.2⟩

end MethodDescriptor
end ClassRuntime

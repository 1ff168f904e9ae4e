import ClassRuntime.Proofs.MethodDescriptor.Reading

namespace ClassRuntime

/-!
# Descriptors cut at bytes

Texts are kept in UTF-8, and a reader that works in place does not take a text apart
into characters: it looks up the byte at which a mark stands and cuts there.  A cut
is only possible between two characters and not behind the end, and a program that
tries another one ends on the spot.  Here the reader is written in that way, with
`none` for such an end.  It never gets there, since marks are one byte long, and so
it answers what the reader of characters answers.
-/

namespace Text

/-- The bytes that a text takes up in UTF-8. -/
def size : List Char → Nat
  | [] => 0
  | first :: rest => first.utf8Size + size rest

/-- What stands before a byte and what stands from it on, if the byte does not lie
within a character or behind the end. -/
def cut? : Nat → List Char → Option (List Char × List Char)
  | 0, text => some ([], text)
  | _ + 1, [] => none
  | offset + 1, first :: rest =>
    if first.utf8Size ≤ offset + 1 then
      (cut? (offset + 1 - first.utf8Size) rest).map fun (before, after) =>
        (first :: before, after)
    else none

/-- The text up to a byte. -/
def sliceTo? (stop : Nat) (text : List Char) : Option (List Char) :=
  (cut? stop text).map (·.1)

/-- The text from a byte on. -/
def sliceFrom? (start : Nat) (text : List Char) : Option (List Char) :=
  (cut? start text).map (·.2)

/-- The text from one byte up to another, neither before the first. -/
def slice? (start stop : Nat) (text : List Char) : Option (List Char) :=
  (sliceTo? stop text).bind (sliceFrom? start)

/-- The byte at which a mark first stands. -/
def locate? (mark : Char) : List Char → Option Nat
  | [] => none
  | first :: rest =>
    if first = mark then some 0 else (locate? mark rest).map (first.utf8Size + ·)

theorem size_cons (first : Char) (rest : List Char) :
    size (first :: rest) = first.utf8Size + size rest :=
  rfl

theorem size_append (before after : List Char) :
    size (before ++ after) = size before + size after := by
  induction before with
  | nil => simp [size]
  | cons first rest onward => rw [List.cons_append, size_cons, size_cons, onward, Nat.add_assoc]

theorem cut?_append (before after : List Char) :
    cut? (size before) (before ++ after) = some (before, after) := by
  induction before with
  | nil => simp [size, cut?]
  | cons first rest onward =>
    have positive := first.utf8Size_pos
    obtain ⟨offset, total⟩ : ∃ offset, size (first :: rest) = offset + 1 :=
      Nat.exists_eq_add_one.2 (by rw [size_cons]; omega)
    have remaining : offset + 1 - first.utf8Size = size rest := by
      rw [← total, size_cons, Nat.add_sub_cancel_left]
    rw [total, List.cons_append, cut?, if_pos (by rw [← total, size_cons]; omega), remaining,
      onward]
    rfl

theorem sliceTo?_append (before after : List Char) :
    sliceTo? (size before) (before ++ after) = some before := by
  rw [sliceTo?, cut?_append]
  rfl

theorem sliceFrom?_append (before after : List Char) :
    sliceFrom? (size before) (before ++ after) = some after := by
  rw [sliceFrom?, cut?_append]
  rfl

theorem slice?_append (before middle after : List Char) :
    slice? (size before) (size (before ++ middle)) (before ++ middle ++ after) = some middle := by
  rw [slice?, sliceTo?_append, Option.bind_some, sliceFrom?_append]

/-- The byte of a mark is where the text before it ends. -/
theorem locate?_eq (mark : Char) (text : List Char) :
    locate? mark text = (splitFirst mark text).map fun parts => size parts.1 := by
  induction text with
  | nil => rfl
  | cons first rest onward =>
    rw [locate?, splitFirst]
    split
    next => rfl
    next =>
      rw [onward, Option.map_map, Option.map_map]
      refine congrArg (fun measure => Option.map measure (splitFirst mark rest)) ?_
      funext parts
      exact (size_cons first parts.1).symm

theorem locate?_append (mark : Char) (before after : List Char) (absent : mark ∉ before) :
    locate? mark (before ++ mark :: after) = some (size before) := by
  rw [locate?_eq, splitFirst_append mark before after absent]
  rfl

theorem locate?_cons_of_splitFirst {first mark : Char} {rest : List Char}
    (different : first ≠ mark) (unmarked : splitFirst mark rest = none) :
    locate? mark (first :: rest) = none := by
  rw [locate?_eq, splitFirst, if_neg different, unmarked]
  rfl

/-- Behind a mark of one byte. -/
theorem sliceFrom?_mark (mark : Char) (narrow : mark.utf8Size = 1) (before after : List Char) :
    sliceFrom? (size before + 1) (before ++ mark :: after) = some after := by
  have cut := sliceFrom?_append (before ++ [mark]) after
  rwa [List.append_assoc, List.singleton_append, size_append, size_cons, narrow] at cut

theorem length_cut? {offset : Nat} {text before after : List Char}
    (split : cut? offset text = some (before, after)) :
    text.length = before.length + after.length ∧ (before = [] → offset = 0) := by
  fun_induction cut? offset text generalizing before after with
  | case1 => cases split; simp
  | case2 => cases split
  | case3 offset first rest _ shorter =>
    obtain ⟨⟨initial, remaining⟩, found, same⟩ := Option.map_eq_some_iff.1 split
    cases same
    have total := (shorter found).1
    simp only [List.length_cons, total]
    exact ⟨by omega, fun empty => by cases empty⟩
  | case4 => cases split

theorem length_sliceFrom? {start : Nat} {text after : List Char}
    (split : sliceFrom? (start + 1) text = some after) : after.length < text.length := by
  obtain ⟨⟨before, remaining⟩, found, rfl⟩ := Option.map_eq_some_iff.1 split
  obtain ⟨total, positive⟩ := length_cut? found
  have : before.length ≠ 0 := by
    intro empty
    cases positive (List.eq_nil_of_length_eq_zero empty)
  dsimp only
  omega

end Text

namespace FieldType

/-- Read one type from the front, cutting at bytes. -/
def parseSlices? : List Char → Option (Option (FieldType × List Char))
  | [] => some none
  | '[' :: rest =>
    match inside : Text.sliceFrom? 1 ('[' :: rest) with
    | none => none
    | some inner =>
      have := Text.length_sliceFrom? inside
      (parseSlices? inner).map fun read =>
        read.map fun (component, after) => (.array component, after)
  | 'L' :: rest =>
    match Text.locate? ';' ('L' :: rest) with
    | none => some none
    | some stop => do
      let name ← Text.slice? 1 stop ('L' :: rest)
      if name = [] then some none
      else
        let after ← Text.sliceFrom? (stop + 1) ('L' :: rest)
        some (some (.object (String.ofList name), after))
  | letter :: rest => some ((BaseType.ofLetter? letter).map fun type => (.base type, rest))
termination_by text => text.length
decreasing_by exact this

/-- The name of a class is cut out between its letter and the first semicolon. -/
theorem parseSlices?_object (rest : List Char) :
    parseSlices? ('L' :: rest) = some (parse? ('L' :: rest)) := by
  rw [parseSlices?, parse?]
  cases split : Text.splitFirst ';' rest with
  | none => rw [Text.locate?_cons_of_splitFirst (by decide) split]
  | some parts =>
    obtain ⟨name, after⟩ := parts
    obtain ⟨rfl, absent⟩ := Text.eq_of_splitFirst split
    have stop := Text.locate?_append ';' ('L' :: name) after (by simpa using absent)
    have inside := Text.slice?_append ['L'] name (';' :: after)
    have behind := Text.sliceFrom?_mark ';' rfl ('L' :: name) after
    rw [List.cons_append] at stop behind
    rw [stop]
    change Text.slice? 1 (Text.size ('L' :: name)) ('L' :: (name ++ ';' :: after)) = _ at inside
    simp only [inside, behind, Option.bind_eq_bind, Option.bind_some]
    cases name with
    | nil => rfl
    | cons first others => rfl

theorem parseSlices?_array (rest : List Char) :
    parseSlices? ('[' :: rest) = (parseSlices? rest).map fun read =>
      read.map fun (component, after) => (.array component, after) := by
  have inside : Text.sliceFrom? 1 ('[' :: rest) = some rest := Text.sliceFrom?_append ['['] rest
  rw [parseSlices?]
  split
  next missing => rw [inside] at missing; cases missing
  next found => rw [inside] at found; cases found; rfl

theorem parseSlices?_eq (text : List Char) : parseSlices? text = some (parse? text) := by
  induction text using parse?.induct with
  | case1 => rw [parseSlices?, parse?]
  | case2 rest onward =>
    rw [parseSlices?_array, onward, parse?]
    rfl
  | case3 rest => exact parseSlices?_object rest
  | case4 rest => exact parseSlices?_object rest
  | case5 rest => exact parseSlices?_object rest
  | case6 letter rest notArray notObject =>
    rw [parseSlices?, parse?] <;> assumption

theorem length_parseSlices? {text after : List Char} {type : FieldType}
    (read : parseSlices? text = some (some (type, after))) : after.length < text.length := by
  rw [parseSlices?_eq] at read
  exact length_parse? (Option.some.inj read)

/-- Read types until nothing remains, cutting at bytes. -/
def parseAllSlices? (text : List Char) : Option (Option (List FieldType)) :=
  if text = [] then some (some [])
  else
    match read : parseSlices? text with
    | none => none
    | some none => some none
    | some (some (type, after)) =>
      have := length_parseSlices? read
      (parseAllSlices? after).map fun others => others.map (type :: ·)
termination_by text.length

theorem parseAllSlices?_eq (text : List Char) :
    parseAllSlices? text = some (parseAll? text) := by
  fun_induction parseAllSlices? text with
  | case1 => rw [parseAll?_nil]
  | case2 text nonempty stuck =>
    rw [parseSlices?_eq] at stuck
    cases stuck
  | case3 text nonempty bad =>
    rw [parseSlices?_eq, Option.some_inj] at bad
    rw [parseAll?_of_parse?_none nonempty bad]
  | case4 text nonempty type after first shorter onward =>
    rw [parseSlices?_eq, Option.some_inj] at first
    rw [onward, parseAll?_of_parse? first]
    rfl

end FieldType

namespace MethodDescriptor

/-- Read the type of the result, cutting at bytes. -/
def readResultSlices? (text : List Char) : Option (Except Flaw (Option FieldType)) :=
  if text = ['V'] then some (.ok none)
  else do
    match ← FieldType.parseSlices? text with
    | none => some (.error .badResult)
    | some (type, []) => some (.ok (some type))
    | some (_, _ :: _) => some (.error .trailingCharacters)

/-- Read a whole descriptor, cutting at bytes. -/
def readSlices? (text : List Char) : Option (Except Flaw MethodDescriptor) :=
  match text with
  | '(' :: rest =>
    match Text.locate? ')' rest with
    | none => some (.error .missingClose)
    | some close => do
      let before ← Text.sliceTo? close rest
      let after ← Text.sliceFrom? (close + 1) rest
      match ← FieldType.parseAllSlices? before with
      | none => some (.error .badParameter)
      | some parameters =>
        let result ← readResultSlices? after
        some (result.map fun result => ⟨parameters, result⟩)
  | _ => some (.error .missingOpen)

/-- The descriptor that a text stands for, cutting at bytes. -/
def parseSlices? (descriptor : String) : Option (Except RuntimeError MethodDescriptor) :=
  (readSlices? descriptor.toList).map fun answer =>
    answer.mapError fun flaw => .malformedDescriptor descriptor flaw.reason

theorem readResultSlices?_eq (text : List Char) :
    readResultSlices? text = some (readResult text) := by
  unfold readResultSlices? readResult
  rw [FieldType.parseSlices?_eq]
  split
  next => rfl
  next =>
    rw [Option.bind_eq_bind, Option.bind_some]
    split <;> simp [*]

theorem readSlices?_eq (text : List Char) : readSlices? text = some (read text) := by
  unfold readSlices?
  split
  next rest =>
    rw [read]
    cases split : Text.splitFirst ')' rest with
    | none =>
      rw [Text.locate?_eq, split]
      rfl
    | some parts =>
      obtain ⟨before, after⟩ := parts
      obtain ⟨rfl, absent⟩ := Text.eq_of_splitFirst split
      rw [Text.locate?_append ')' before after absent]
      simp only [Text.sliceTo?_append, Text.sliceFrom?_mark ')' rfl,
        FieldType.parseAllSlices?_eq, readResultSlices?_eq, Option.bind_eq_bind, Option.bind_some]
      cases FieldType.parseAll? before with
      | none => rfl
      | some parameters => rfl
  next notOpen =>
    rw [read]
    exact notOpen

/-- Every cut falls between two characters, whatever the text is. -/
theorem parseSlices?_eq (descriptor : String) :
    parseSlices? descriptor = some (parse descriptor) := by
  rw [parseSlices?, readSlices?_eq]
  rfl

end MethodDescriptor
end ClassRuntime

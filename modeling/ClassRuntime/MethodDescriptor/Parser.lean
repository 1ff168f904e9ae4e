import ClassRuntime.Error
import ClassRuntime.Text.Split

namespace ClassRuntime

/-!
# Reading method descriptors

A type is read from the front of a text, so that what follows it remains.  The
parameters end at the first closing parenthesis, wherever it stands, and the
result has to take up all that follows.
-/

namespace FieldType

/-- Read one type from the front.  A class name is not empty. -/
def parse? : List Char → Option (FieldType × List Char)
  | [] => none
  | '[' :: rest => (parse? rest).map fun (component, after) => (.array component, after)
  | 'L' :: rest =>
    match Text.splitFirst ';' rest with
    | none => none
    | some ([], _) => none
    | some (name, after) => some (.object (String.ofList name), after)
  | letter :: rest => (BaseType.ofLetter? letter).map fun type => (.base type, rest)

theorem length_parse? {text after : List Char} {type : FieldType}
    (read : parse? text = some (type, after)) : after.length < text.length := by
  fun_induction parse? text generalizing type after with
  | case1 => cases read
  | case2 rest shorter =>
    obtain ⟨⟨component, remaining⟩, found, same⟩ := Option.map_eq_some_iff.1 read
    cases same
    exact Nat.lt_succ_of_lt (shorter found)
  | case3 => cases read
  | case4 => cases read
  | case5 rest name remaining _ split =>
    cases read
    exact Nat.lt_succ_of_lt (Text.length_splitFirst split)
  | case6 letter rest =>
    obtain ⟨base, _, same⟩ := Option.map_eq_some_iff.1 read
    cases same
    simp

/-- Read types until nothing remains. -/
def parseAll? (text : List Char) : Option (List FieldType) :=
  if text = [] then some []
  else
    match read : parse? text with
    | none => none
    | some (type, after) =>
      have := length_parse? read
      (parseAll? after).map (type :: ·)
termination_by text.length

end FieldType

namespace MethodDescriptor

/-- What is wrong with a text that is no descriptor. -/
inductive Flaw where
  | missingOpen
  | missingClose
  | badParameter
  | badResult
  | trailingCharacters
  deriving DecidableEq

/-- The flaw in words. -/
def Flaw.reason : Flaw → String
  | .missingOpen => "missing '('"
  | .missingClose => "missing ')'"
  | .badParameter => "bad parameter"
  | .badResult => "bad return type"
  | .trailingCharacters => "trailing characters after return type"

/-- Read the type of the result. -/
def readResult (text : List Char) : Except Flaw (Option FieldType) :=
  if text = ['V'] then .ok none
  else
    match FieldType.parse? text with
    | none => .error .badResult
    | some (type, []) => .ok (some type)
    | some (_, _ :: _) => .error .trailingCharacters

/-- Read a whole descriptor. -/
def read (text : List Char) : Except Flaw MethodDescriptor :=
  match text with
  | '(' :: rest =>
    match Text.splitFirst ')' rest with
    | none => .error .missingClose
    | some (before, after) =>
      match FieldType.parseAll? before with
      | none => .error .badParameter
      | some parameters => (readResult after).map fun result => ⟨parameters, result⟩
  | _ => .error .missingOpen

/-- The descriptor that a text stands for. -/
def parse (descriptor : String) : Except RuntimeError MethodDescriptor :=
  (read descriptor.toList).mapError fun flaw => .malformedDescriptor descriptor flaw.reason

end MethodDescriptor
end ClassRuntime

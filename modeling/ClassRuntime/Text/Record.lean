namespace ClassRuntime
namespace Text

/-!
# Texts of records and lists

The descriptions of definitions, loaders and values share one layout: a record
is its name with named fields between braces, a list stands between brackets,
and an optional part says whether it is there.
-/

/-- Items between brackets, separated by commas. -/
def list (items : List String) : String :=
  "[" ++ ", ".intercalate items ++ "]"

/-- A constructor with one argument between parentheses. -/
def wrapped (constructor argument : String) : String :=
  constructor ++ "(" ++ argument ++ ")"

/-- An optional part. -/
def optional : Option String → String
  | none => "None"
  | some text => wrapped "Some" text

/-- A record with its fields in order. -/
def record (name : String) (fields : List (String × String)) : String :=
  name ++ " \x7b " ++
    ", ".intercalate (fields.map fun (field, value) => field ++ ": " ++ value) ++ " \x7d"

end Text
end ClassRuntime

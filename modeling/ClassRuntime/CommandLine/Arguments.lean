namespace ClassRuntime
namespace CommandLine

/-!
# Command line arguments

The program leaves its command line to a library of argument parsing.  What
stands here in the place of that library is the part of it that the program
relies on.  It belongs to the outer layer, and nothing that is said about
classes depends on it.

Options begin with a dash, and those of one letter can be joined.  The list
option is given at most once.  The version option is answered as soon as it is
met, whatever follows.  Two dashes end the options; a single dash and every
other argument is the name of a class.

The help option of the library is not among the options here.  It is refused
like any unknown one, with the exit code of a wrong usage, where the library
would print the text that it makes up and end with success.
-/

/-- What a user asks for. -/
inductive Request where
  | version
  | describe (list : Bool) (classes : List String)
  deriving DecidableEq

/-- What options joined in one argument amount to. -/
inductive Joined where
  | refused
  | version
  | flags (list : Bool)
  deriving DecidableEq

/-- Read the letters of joined options. -/
def readLetters (list : Bool) : List Char → Joined
  | [] => .flags list
  | 'l' :: rest => if list then .refused else readLetters true rest
  | 'V' :: _ => .version
  | _ :: _ => .refused

/-- Read one option, given whether the list option has been met. -/
def readOption (list : Bool) (argument : String) : Joined :=
  if argument = "--list" then if list then .refused else .flags true
  else if argument = "--version" then .version
  else readLetters list (argument.toList.drop 1)

/-- Whether an argument is an option. -/
def isOption (argument : String) : Bool :=
  argument.toList.head? = some '-' && argument ≠ "-"

/-- Read arguments, given what has been met before.  There is no request if
an option is refused. -/
def readRequest (list : Bool) (classes : List String) : List String → Option Request
  | [] => some (.describe list classes)
  | argument :: rest =>
    if argument = "--" then some (.describe list (classes ++ rest))
    else if isOption argument then
      match readOption list argument with
      | .refused => none
      | .version => some .version
      | .flags list => readRequest list classes rest
    else readRequest list (classes ++ [argument]) rest

/-- The request that the arguments stand for. -/
def Request.ofArguments? (arguments : List String) : Option Request :=
  readRequest false [] arguments

end CommandLine
end ClassRuntime

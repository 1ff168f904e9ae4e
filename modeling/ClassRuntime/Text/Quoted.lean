import ClassRuntime.Text.Unprintable

namespace ClassRuntime
namespace Text

/-!
# Quoted text

A quoted text stands between double quotes.  A double quote and a backslash
are preceded by a backslash, five control characters have a letter or digit of
their own, and every other unprintable character is written as its code point
in hexadecimal.  A single quote needs no mark.
-/

/-- The code point in lower case hexadecimal, between braces. -/
def codePointEscape (character : Char) : List Char :=
  ['\\', 'u', '\x7b'] ++ Nat.toDigits 16 character.toNat ++ ['\x7d']

/-- How one character is written inside quotes. -/
def escapeCharacter (character : Char) : List Char :=
  if character = '"' then ['\\', '"']
  else if character = '\\' then ['\\', '\\']
  else if character = '\n' then ['\\', 'n']
  else if character = '\r' then ['\\', 'r']
  else if character = '\t' then ['\\', 't']
  else if character = '\x00' then ['\\', '0']
  else if isUnprintable character then codePointEscape character
  else [character]

/-- The text between double quotes, with every character escaped. -/
def quoted (text : String) : String :=
  String.ofList ('"' :: text.toList.flatMap escapeCharacter ++ ['"'])

example : quoted "a\"\\\x01é" = "\"a\\\"\\\\\\u\x7b1\x7dé\"" := by decide +kernel

end Text
end ClassRuntime

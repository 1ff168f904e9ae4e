namespace ClassRuntime
namespace Text

/-!
# Hexadecimal numbers

Numbers are written in lower case with leading zeros up to a given width, and
read in either case.
-/

/-- The digits of a number, at least as many as the width. -/
def hexDigits (width number : Nat) : List Char :=
  let digits := Nat.toDigits 16 number
  List.replicate (width - digits.length) '0' ++ digits

/-- A number in hexadecimal. -/
def hexadecimal (width number : Nat) : String :=
  String.ofList (hexDigits width number)

/-- The value of a digit. -/
def hexValue? (digit : Char) : Option Nat :=
  if digit.isDigit then some (digit.toNat - '0'.toNat)
  else if 'a' ≤ digit ∧ digit ≤ 'f' then some (digit.toNat - 'a'.toNat + 10)
  else if 'A' ≤ digit ∧ digit ≤ 'F' then some (digit.toNat - 'A'.toNat + 10)
  else none

/-- Read a number in hexadecimal. -/
def readHexadecimal? (text : String) : Option Nat :=
  text.toList.foldlM (fun number digit => (hexValue? digit).map (number * 16 + ·)) 0

example : readHexadecimal? "c002" = some 49154 := by decide +kernel

example : hexadecimal 4 17 = "0011" := by decide +kernel

end Text
end ClassRuntime

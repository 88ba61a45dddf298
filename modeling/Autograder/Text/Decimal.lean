/-
# Whole numbers in decimal

A whole number is read as an optional `+` and one or more ASCII digits, leading zeros included,
up to a given limit. It is written with the fewest digits.
-/

namespace Autograder
namespace Text

/-- The largest number that 32 bits hold. -/
def maxUInt32 : Nat := Nat.pow 2 32 - 1

/-- The largest number that 64 bits hold. -/
def maxUInt64 : Nat := Nat.pow 2 64 - 1

/-- The value of a run of digits; `none` for anything else, the empty text included. -/
def readDigits? (s : List Char) : Option Nat :=
  if !s.isEmpty && s.all Char.isDigit then some (Nat.ofDigitChars 10 s 0) else none

/-- The digits of a number that may be signed with a `+`. -/
def dropPlus : List Char → List Char
  | '+' :: r => r
  | s => s

/-- A whole number of at most `limit`. -/
def readNat? (limit : Nat) (s : List Char) : Option Nat :=
  (readDigits? (dropPlus s)).filter (· ≤ limit)

end Text
end Autograder

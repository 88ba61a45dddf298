/-
# Reading a number

A number is an optional sign and either digits with an optional point and an optional exponent, or
one of the words `inf`, `infinity` and `nan` in any case. It is read as the nearest double.
-/

import Autograder.Text.Decimal

namespace Autograder
namespace Number

/-- Positive infinity. -/
def infinity : Float := 1.0 / 0.0

/-- Not a number. -/
def nan : Float := 0.0 / 0.0

/-- The double nearest to `m · 10^e`. Numbers with more than 310 digits before the point are
infinite, and those with more than 330 zeros after it are zero. -/
def nearest (m : Nat) (e : Int) : Float :=
  let size : Int := (Nat.toDigits 10 m).length + e
  if m = 0 || size < -330 then 0.0
  else if 310 < size then infinity
  else Float.ofScientific m (e < 0) e.natAbs

/-- The sign in front of a text, and what follows it. -/
def splitSign : List Char → Bool × List Char
  | '-' :: r => (true, r)
  | '+' :: r => (false, r)
  | s => (false, s)

/-- The exponent that a number ends with. -/
def readExponent? : List Char → Option Int
  | [] => some 0
  | c :: r =>
    if c = 'e' || c = 'E' then
      let (negative, ds) := splitSign r
      (Text.readDigits? ds).map fun n => if negative then -(n : Int) else n
    else none

/-- Digits with an optional point among or around them, and an exponent. -/
def readDecimal? (s : List Char) : Option Float :=
  let whole := s.takeWhile Char.isDigit
  let rest := s.dropWhile Char.isDigit
  let (fraction, rest) := match rest with
    | '.' :: r => (r.takeWhile Char.isDigit, r.dropWhile Char.isDigit)
    | r => ([], r)
  if whole.isEmpty && fraction.isEmpty then none
  else
    (readExponent? rest).map fun e =>
      nearest (Nat.ofDigitChars 10 (whole ++ fraction) 0) (e - fraction.length)

/-- A number without its sign. -/
def readUnsigned? (s : List Char) : Option Float :=
  let word := String.ofList (s.map Char.toLower)
  if word = "inf" || word = "infinity" then some infinity
  else if word = "nan" then some nan
  else readDecimal? s

/-- A number. -/
def read? (s : List Char) : Option Float :=
  let (negative, digits) := splitSign s
  (readUnsigned? digits).map fun x => if negative then -x else x

end Number
end Autograder

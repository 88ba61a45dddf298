/-
# JSON numbers

A number without fraction and exponent is a whole number. Any other number is read as a whole
number of 64 bits, scaled by a power of ten in double arithmetic: digits of the fraction that do
not fit any more are left out, and digits before the point that do not fit are counted. A number
beyond the largest double is refused.
-/

import Autograder.Number.Reader
import Autograder.Text.Decimal

namespace Autograder
namespace Json

/-- The parts of a number: sign, digits before the point, digits after it, exponent. -/
structure NumberParts where
  negative : Bool
  whole : List Char
  fraction : Option (List Char)
  exponent : Option Int

/-- The exponent at the start of a text, and what follows it. -/
def takeExponent? : List Char → Option (Option Int × List Char)
  | [] => some (none, [])
  | c :: r =>
    if c = 'e' || c = 'E' then
      let (negative, s) := Number.splitSign r
      let digits := s.takeWhile Char.isDigit
      (Text.readDigits? digits).map fun n =>
        (some (if negative then -(n : Int) else n), s.dropWhile Char.isDigit)
    else some (none, c :: r)

/-- The fraction at the start of a text, and what follows it. -/
def takeFraction? : List Char → Option (Option (List Char) × List Char)
  | '.' :: r =>
    let digits := r.takeWhile Char.isDigit
    if digits.isEmpty then none else some (some digits, r.dropWhile Char.isDigit)
  | s => some (none, s)

/-- The number at the start of a text, and what follows it. Only the number 0 starts with a 0. -/
def takeNumber? (s : List Char) : Option (NumberParts × List Char) :=
  let (negative, s) := match s with
    | '-' :: r => (true, r)
    | s => (false, s)
  let whole := s.takeWhile Char.isDigit
  if whole.isEmpty || (whole.head? == some '0' && 1 < whole.length) then none
  else
    match takeFraction? (s.dropWhile Char.isDigit) with
    | none => none
    | some (fraction, s) =>
      (takeExponent? s).map fun (exponent, s) => (⟨negative, whole, fraction, exponent⟩, s)

/-- A whole number with one more digit, if 64 bits still hold it. -/
def addDigit? (n : Nat) (c : Char) : Option Nat :=
  let m := n * 10 + (c.toNat - '0'.toNat)
  if m ≤ Text.maxUInt64 then some m else none

/-- The digits before the point that fit, and how many do not. -/
def takeWhole (n : Nat) : List Char → Nat × Nat
  | [] => (n, 0)
  | c :: r =>
    match addDigit? n c with
    | some m => takeWhole m r
    | none => (n, (c :: r).length)

/-- More digits, after the point, that fit, and how many those are. -/
def takePlaces (n places : Nat) : List Char → Nat × Nat
  | [] => (n, places)
  | c :: r =>
    match addDigit? n c with
    | some m => takePlaces m (places + 1) r
    | none => (n, places)

/-- A power of ten, up to the 308th. -/
def powerOfTen (n : Nat) : Float := Float.ofScientific 1 false n

/-- A number times a power of ten. Below `10^-308` it takes several divisions. -/
def scale (x : Float) (e : Int) : Nat → Option Float
  | 0 => some x
  | steps + 1 =>
    if e.natAbs ≤ 308 then
      if 0 ≤ e then
        let y := x * powerOfTen e.natAbs
        if y.isInf then none else some y
      else some (x / powerOfTen e.natAbs)
    else if x == 0.0 then some x
    else if 0 ≤ e then none
    else scale (x / powerOfTen 308) (e + 308) steps

/-- An exponent has at most 31 bits. -/
def maxExponent : Nat := Nat.pow 2 31 - 1

/-- The size of a number, without its sign. -/
def NumberParts.magnitude? (p : NumberParts) : Option Float :=
  let (n, dropped) := takeWhole 0 p.whole
  if dropped = 0 && p.fraction.isNone && p.exponent.isNone then some n.toUInt64.toFloat
  else
    let (n, places) := takePlaces n 0 (p.fraction.getD [])
    let e := p.exponent.getD 0
    if maxExponent < e.natAbs then (if n ≠ 0 && 0 < e then none else some 0.0)
    else scale n.toUInt64.toFloat (dropped - places + e) 4

/-- The double that a number stands for. -/
def NumberParts.value? (p : NumberParts) : Option Float :=
  p.magnitude?.map fun x => if p.negative then -x else x

/-- The double that a written number stands for. -/
def readNumber? (literal : List Char) : Option Float :=
  match takeNumber? literal with
  | some (parts, []) => parts.value?
  | _ => none

end Json
end Autograder

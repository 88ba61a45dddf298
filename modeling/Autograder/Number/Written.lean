/-
# Numbers in messages and in reports

* In a message a number stands with its shortest digits and without an exponent: `plain`.
* A measured time, a ratio or a score stands with a fixed number of places: `fixed`.
* In a report a number always shows that it need not be whole: `inReport`.
-/

import Autograder.Number.Shortest

namespace Autograder
namespace Decimal

/-- The sign in front of a number. -/
def sign (negative : Bool) : String := if negative then "-" else ""

/-- Decimal digits. -/
def digitText (n : Nat) : List Char := Nat.toDigits 10 n

/-- A number in positional notation; a point only where places follow it. -/
def positional (d : Decimal) : String :=
  if d.digits = 0 then "0"
  else if 0 ≤ d.exponent then
    String.ofList (digitText d.digits ++ List.replicate d.exponent.toNat '0')
  else
    let places := (-d.exponent).toNat
    let ds := digitText d.digits
    let ds := List.replicate (places + 1 - ds.length) '0' ++ ds
    String.ofList (ds.take (ds.length - places) ++ ['.'] ++ ds.drop (ds.length - places))

/-- The first digit, a point, the other digits, and the exponent with its sign. -/
def scientific (d : Decimal) : String :=
  let ds := digitText d.digits
  let e : Int := d.exponent + ds.length - 1
  let fraction := if ds.length = 1 then [] else '.' :: ds.drop 1
  String.ofList (ds.take 1 ++ fraction ++ ['e', if e < 0 then '-' else '+'] ++ digitText e.natAbs)

end Decimal

open Decimal

/-- A number with its shortest digits, never with an exponent. -/
def plain (x : Float) : String :=
  match Binary.ofFloat x with
  | .nan => "NaN"
  | .infinite negative => sign negative ++ "inf"
  | .finite negative m q => sign negative ++ (shortest .up m q).positional

/-- The nearest whole number to a quotient, and of two nearest the even one. -/
def roundHalfEven (n d : Nat) : Nat :=
  let r := n % d
  if d < 2 * r || (d = 2 * r && n / d % 2 = 1) then n / d + 1 else n / d

/-- A number with a fixed number of places, rounded from its exact value. -/
def fixed (places : Nat) (x : Float) : String :=
  match Binary.ofFloat x with
  | .nan => "NaN"
  | .infinite negative => sign negative ++ "inf"
  | .finite negative m q =>
    let (n, d) := Binary.quotient m q
    let ds := digitText (roundHalfEven (n * Nat.pow 10 places) d)
    let ds := List.replicate (places + 1 - ds.length) '0' ++ ds
    let whole := ds.take (ds.length - places)
    let fraction := if places = 0 then [] else '.' :: ds.drop (ds.length - places)
    sign negative ++ String.ofList (whole ++ fraction)

/-- A number in a report: whole numbers end in `.0`, and numbers below `10^-5` or from `10^16`
upwards have an exponent. What is not a finite number is `none`. -/
def inReport? (x : Float) : Option String :=
  match Binary.ofFloat x with
  | .nan | .infinite _ => none
  | .finite negative m q =>
    let d := shortest .toEven m q
    let size : Int := d.exponent + (digitText d.digits).length
    let text :=
      if d.digits = 0 then "0.0"
      else if 16 < size || size < -4 then d.scientific
      else if 0 ≤ d.exponent then d.positional ++ ".0"
      else d.positional
    some (sign negative ++ text)

end Autograder

/-
# Numbers with so many significant digits

A number is rounded from its exact value to a number of significant digits, and written with an
exponent: `exponential`; or without one where that is short: `general`.
-/

import Autograder.Number.Written

namespace Autograder

/-- A positive quotient rounded to `digits` significant digits: the digits, and the exponent of the
first of them. -/
def significant (digits : Nat) (n d : Nat) : Nat × Int :=
  let size : Int := (Nat.toDigits 10 (n * Nat.pow 10 350 / d)).length - 351
  let shift : Int := digits - 1 - size
  let rounded := roundHalfEven (n * Nat.pow 10 shift.toNat) (d * Nat.pow 10 (-shift).toNat)
  if rounded = Nat.pow 10 digits then (Nat.pow 10 (digits - 1), size + 1) else (rounded, size)

/-- The digits of a double and the exponent of the first of them. -/
def significantOf (digits : Nat) (m : Nat) (q : Int) : Nat × Int :=
  if m = 0 then (0, 0)
  else
    let (n, d) := Binary.quotient m q
    significant digits n d

/-- Digits with a point behind the first, and an exponent of two digits at least. -/
def withExponent (digits : List Char) (e : Int) : List Char :=
  let fraction := if digits.length ≤ 1 then [] else '.' :: digits.drop 1
  let exponent := Decimal.digitText e.natAbs
  digits.take 1 ++ fraction ++ ['e', if e < 0 then '-' else '+'] ++
    List.replicate (2 - exponent.length) '0' ++ exponent

/-- Digits filled up with zeros in front. -/
def paddedDigits (length n : Nat) : List Char :=
  let ds := Decimal.digitText n
  List.replicate (length - ds.length) '0' ++ ds

/-- Digits without the zeros at their end, of which so many may be left out. -/
def dropZeros (most : Nat) (ds : List Char) : List Char :=
  let zeros := (ds.reverse.takeWhile (· == '0')).length
  ds.take (ds.length - min most zeros)

/-- A number with so many places and an exponent. -/
def exponential (places : Nat) (x : Float) : String :=
  match Binary.ofFloat x with
  | .nan => "nan"
  | .infinite negative => Decimal.sign negative ++ "inf"
  | .finite negative m q =>
    let (ds, e) := significantOf (places + 1) m q
    Decimal.sign negative ++ String.ofList (withExponent (paddedDigits (places + 1) ds) e)

/-- A number with so many significant digits, where the zeros at the end are left out unless
`whole`: without an exponent if that is neither below -4 nor as large as the number of digits. -/
def general (digits : Nat) (whole : Bool) (x : Float) : String :=
  let digits := max digits 1
  match Binary.ofFloat x with
  | .nan => "nan"
  | .infinite negative => Decimal.sign negative ++ "inf"
  | .finite negative m q =>
    let (n, e) := significantOf digits m q
    let ds := paddedDigits digits n
    let shorter (most : Nat) (ds : List Char) : List Char :=
      if whole then ds else dropZeros most ds
    let text :=
      if e < -4 || (digits : Int) ≤ e then withExponent (shorter (digits - 1) ds) e
      else
        let before := (e + 1).toNat
        let all := List.replicate (-e).toNat '0' ++ ds
        let start := if e < 0 then 1 else before
        let ds := shorter (all.length - start) all
        if ds.length ≤ start then ds else ds.take start ++ '.' :: ds.drop start
    Decimal.sign negative ++ String.ofList text

end Autograder

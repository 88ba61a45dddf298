/-
# The shortest decimal that reads back

Every real number between two midpoints reads back as the same double. Of the decimals there, the
ones with the fewest digits are looked for, and of those the one nearest to the double is taken:
on the grids with 1, 2, … 17 digits, the two neighbours of the value are tested.
-/

import Autograder.Number.Binary

namespace Autograder

/-- The number `digits · 10^exponent`. -/
structure Decimal where
  digits : Nat
  exponent : Int
  deriving DecidableEq, Repr

/-- Which of two decimals is taken when the value lies halfway between them. -/
inductive Tie where
  | up
  | toEven
  deriving DecidableEq, Repr

namespace Decimal

/-- The digits of a positive number, without the zeros at the end. -/
def stripped (d : Decimal) : Decimal :=
  let zeros := ((Nat.toDigits 10 d.digits).reverse.takeWhile (· == '0')).length
  ⟨d.digits / Nat.pow 10 zeros, d.exponent + zeros⟩

/-- A positive quotient of whole numbers and the open or closed interval around it. -/
structure Interval where
  low : Nat
  value : Nat
  high : Nat
  denominator : Nat
  closed : Bool

/-- The numbers that read back as the double `m · 2^q`: half a step to either side, where the step
below a power of two is half as wide. The ends belong to it when `m` is even. -/
def interval (m : Nat) (q : Int) : Interval :=
  let below := if m = Nat.pow 2 52 && q > -1074 then 1 else 2
  let scale := Binary.quotient 1 (q - 2)
  { low := (4 * m - below) * scale.1
    value := 4 * m * scale.1
    high := (4 * m + 2) * scale.1
    denominator := scale.2
    closed := m % 2 = 0 }

/-- The number of digits before the point, which is negative for zeros right after it. -/
def magnitude (i : Interval) : Int :=
  (Nat.toDigits 10 (i.value * Nat.pow 10 350 / i.denominator)).length - 350

/-- The neighbour of the value on the grid `10^t` that lies in the interval, the nearer of two. -/
def onGrid? (tie : Tie) (i : Interval) (t : Int) : Option Decimal :=
  let up := Nat.pow 10 (-t).toNat
  let den := i.denominator * Nat.pow 10 t.toNat
  let d := i.value * up / den
  let rest := i.value * up % den
  let isIn (n : Nat) : Bool :=
    if i.closed then i.low * up ≤ n * den && n * den ≤ i.high * up
    else i.low * up < n * den && n * den < i.high * up
  let upper : Bool := match tie with
    | .up => den ≤ 2 * rest
    | .toEven => den < 2 * rest || (den = 2 * rest && d % 2 = 1)
  match d ≠ 0 && isIn d, isIn (d + 1) with
  | true, true => some ⟨if upper then d + 1 else d, t⟩
  | true, false => some ⟨d, t⟩
  | false, true => some ⟨d + 1, t⟩
  | false, false => none

/-- The shortest decimal that reads back as the double `m · 2^q`. -/
def shortest (tie : Tie) (m : Nat) (q : Int) : Decimal :=
  if m = 0 then ⟨0, 0⟩
  else
    let i := interval m q
    let k := magnitude i
    match (List.range 17).findSome? fun (n : Nat) => onGrid? tie i (k - (n + 1)) with
    | some d => d.stripped
    | none => ⟨m, q⟩

end Decimal
end Autograder

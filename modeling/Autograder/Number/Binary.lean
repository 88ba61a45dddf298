/-
# The value of a double

A double is a whole number of at most 53 bits times a power of two, one of two infinities, or not
a number. `Binary.ofFloat` reads this off the 64 bits.

| exponent bits | fraction bits | value |
| --- | --- | --- |
| `0` | `f` | `f · 2^-1074` |
| `1 … 2046` | `f` | `(2^52 + f) · 2^(e - 1075)` |
| `2047` | `0` | infinite |
| `2047` | other | not a number |
-/

namespace Autograder

/-- The value that the bits of a double stand for. -/
inductive Binary where
  | nan
  | infinite (negative : Bool)
  /-- The number `mantissa · 2^exponent`. -/
  | finite (negative : Bool) (mantissa : Nat) (exponent : Int)
  deriving DecidableEq, Repr

namespace Binary

/-- The value of a double. -/
def ofFloat (x : Float) : Binary :=
  let bits := x.toBits.toNat
  let negative := bits / Nat.pow 2 63 == 1
  let e : Nat := bits / Nat.pow 2 52 % Nat.pow 2 11
  let f : Nat := bits % Nat.pow 2 52
  if e == 2047 then (if f == 0 then .infinite negative else .nan)
  else if e == 0 then .finite negative f (-1074)
  else .finite negative (Nat.pow 2 52 + f) ((e : Int) - 1075)

/-- A whole number times a power of two, as a quotient of whole numbers. -/
def quotient (m : Nat) (q : Int) : Nat × Nat :=
  if 0 ≤ q then (m * Nat.pow 2 q.toNat, 1) else (m, Nat.pow 2 (-q).toNat)

end Binary
end Autograder

/-
# Points in time

A point in time is written as in RFC 3339 with the offset `+00:00`. The fraction of a second has 3,
6 or 9 digits, whichever are enough, and is left out when it is zero. A leap second is second 60.
Years outside 0 to 9999 have a sign.
-/

namespace Autograder

/-- Seconds since 1970, and nanoseconds on top: a whole second or more of them in a leap second. -/
structure Instant where
  seconds : Int
  nanoseconds : Nat
  deriving DecidableEq, Repr

namespace Instant

/-- A number with at least `width` digits. -/
def padded (width n : Nat) : String :=
  let ds := Nat.toDigits 10 n
  String.ofList (List.replicate (width - ds.length) '0' ++ ds)

/-- The year, month and day of a day counted from 1970-01-01. Years are counted from March here,
so that a leap day is the last of its year, and grouped in cycles of 400. -/
def date (day : Int) : Int × Nat × Nat :=
  let shifted := day + 719468
  let cycle := shifted.fdiv 146097
  let inCycle := (shifted.fmod 146097).toNat
  let yearInCycle := (inCycle - inCycle / 1460 + inCycle / 36524 - inCycle / 146096) / 365
  let dayInYear := inCycle - (365 * yearInCycle + yearInCycle / 4 - yearInCycle / 100)
  let marchMonth := (5 * dayInYear + 2) / 153
  let dayOfMonth := dayInYear - (153 * marchMonth + 2) / 5 + 1
  let month := if marchMonth < 10 then marchMonth + 3 else marchMonth - 9
  let year := cycle * 400 + yearInCycle + (if month ≤ 2 then 1 else 0)
  (year, month, dayOfMonth)

/-- The year as it is written. -/
def yearText (year : Int) : String :=
  if 0 ≤ year && year ≤ 9999 then padded 4 year.toNat
  else (if year < 0 then "-" else "+") ++ padded 4 year.natAbs

/-- The fraction of a second as it is written. -/
def fractionText (nanoseconds : Nat) : String :=
  if nanoseconds = 0 then ""
  else if nanoseconds % 1000000 = 0 then "." ++ padded 3 (nanoseconds / 1000000)
  else if nanoseconds % 1000 = 0 then "." ++ padded 6 (nanoseconds / 1000)
  else "." ++ padded 9 nanoseconds

/-- The point in time as it is written. -/
def text (t : Instant) : String :=
  let (year, month, day) := date (t.seconds.fdiv 86400)
  let second := (t.seconds.fmod 86400).toNat
  let leap := if t.nanoseconds < 1000000000 then 0 else 1
  yearText year ++ "-" ++ padded 2 month ++ "-" ++ padded 2 day ++ "T" ++
    padded 2 (second / 3600) ++ ":" ++ padded 2 (second / 60 % 60) ++ ":" ++
    padded 2 (second % 60 + leap) ++ fractionText (t.nanoseconds % 1000000000) ++ "+00:00"

end Instant
end Autograder

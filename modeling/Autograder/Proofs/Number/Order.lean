/-
# The order of doubles

Doubles that are numbers stand in a line, from one infinity to the other, and each has a rank there
(`rank?`). What is not a number has no rank and is compared with nothing, so a double that is not
from `y` upwards need not lie below `y` (`not_le_iff`).

| double | rank |
| --- | --- |
| not a number | none |
| negative infinity | `(-2, 0, 0)` |
| `-m · 2^e` | `(-1, -e, -m)` |
| zero of either sign | `(0, 0, 0)` |
| `m · 2^e` | `(1, e, m)` |
| infinity | `(2, 0, 0)` |
-/

import Mathlib

namespace Autograder
namespace Number

open Float.Model (UnpackedFloat)

/-- A place among the numbers: by sign and kind first, then by exponent, then by mantissa. -/
abbrev Rank := ℤ ×ₗ ℤ ×ₗ ℤ

/-- The place with three coordinates. -/
def Rank.mk (kind exponent mantissa : ℤ) : Rank := toLex (kind, toLex (exponent, mantissa))

/-- The place of a double that is taken apart. -/
def rankOf? : UnpackedFloat → Option Rank
  | .notANumber => none
  | .infinity .negative => some (.mk (-2) 0 0)
  | .finite .negative m e _ => some (.mk (-1) (-e) (-m))
  | .zero _ => some (.mk 0 0 0)
  | .finite .positive m e _ => some (.mk 1 e m)
  | .infinity .positive => some (.mk 2 0 0)

/-- The place of a double among the numbers. -/
def rank? (x : Float) : Option Rank := rankOf? x.toModel.unpack

theorem compare_neg (a b : ℤ) : compare (-a) (-b) = (compare a b).swap := by
  rcases lt_trichotomy a b with h | rfl | h
  · rw [compare_lt_iff_lt.2 h, compare_gt_iff_gt.2 (Int.neg_lt_neg h)]
    rfl
  · rw [Std.compare_self, Std.compare_self]
    rfl
  · rw [compare_gt_iff_gt.2 h, compare_lt_iff_lt.2 (Int.neg_lt_neg h)]
    rfl

theorem compare_natCast (a b : ℕ) : compare (a : ℤ) (b : ℤ) = compare a b := by
  rcases lt_trichotomy a b with h | rfl | h
  · rw [compare_lt_iff_lt.2 h, compare_lt_iff_lt.2 (Int.ofNat_lt.2 h)]
  · rw [Std.compare_self, Std.compare_self]
  · rw [compare_gt_iff_gt.2 h, compare_gt_iff_gt.2 (Int.ofNat_lt.2 h)]

theorem Rank.compare_mk (kind e m e' m' : ℤ) :
    compare (mk kind e m) (mk kind e' m') = (compare e e').then (compare m m') := by
  have hmk : compare (mk kind e m) (mk kind e' m') =
      (compare kind kind).then ((compare e e').then (compare m m')) := rfl
  rw [hmk, Std.compare_self, Ordering.eq_then]

/-- **Doubles are compared by their ranks.** -/
theorem compare_eq (u v : UnpackedFloat) :
    u.compare v = (rankOf? u).bind fun r => (rankOf? v).map (compare r) := by
  cases u with
  | notANumber => rfl
  | infinity s =>
    cases v with
    | notANumber => cases s <;> rfl
    | infinity t => cases s <;> cases t <;> rfl
    | zero t => cases s <;> rfl
    | finite t m e h => cases s <;> cases t <;> rfl
  | zero s =>
    cases v with
    | notANumber => rfl
    | infinity t => cases t <;> rfl
    | zero t => rfl
    | finite t m e h => cases t <;> rfl
  | finite s m e h =>
    cases v with
    | notANumber => cases s <;> rfl
    | infinity t => cases s <;> cases t <;> rfl
    | zero t => cases s <;> rfl
    | finite t m' e' h' =>
      -- Only two numbers of one sign are told apart by exponent and mantissa.
      cases s with
      | negative =>
        cases t with
        | negative =>
          simp only [UnpackedFloat.compare, rankOf?, Option.bind_some, Option.map_some,
            Rank.compare_mk, compare_neg, compare_natCast, Ordering.swap_then]
        | positive => rfl
      | positive =>
        cases t with
        | negative => rfl
        | positive =>
          simp only [UnpackedFloat.compare, rankOf?, Option.bind_some, Option.map_some,
            Rank.compare_mk, compare_natCast]

variable {x y z : Float}

/-- What is not a number has no rank. -/
theorem isNaN_iff : x.isNaN = true ↔ rank? x = none := by
  have hmodel : x.isNaN = x.toModel.unpack.isNaN := rfl
  rw [hmodel, rank?]
  cases x.toModel.unpack with
  | notANumber => exact iff_of_true rfl rfl
  | infinity s => cases s <;> exact iff_of_false Bool.false_ne_true (Option.some_ne_none _)
  | zero s => exact iff_of_false Bool.false_ne_true (Option.some_ne_none _)
  | finite s m e h => cases s <;> exact iff_of_false Bool.false_ne_true (Option.some_ne_none _)

theorem le_iff : x ≤ y ↔ ∃ r s, rank? x = some r ∧ rank? y = some s ∧ r ≤ s := by
  have hmodel : x ≤ y ↔ decide (x.toModel.unpack.le y.toModel.unpack = true) = true := Iff.rfl
  rw [hmodel, decide_eq_true_iff, UnpackedFloat.le, compare_eq, rank?, rank?]
  cases rankOf? x.toModel.unpack with
  | none => simp
  | some r =>
    cases rankOf? y.toModel.unpack with
    | none => simp
    | some s =>
      have hle : (compare r s).isLE = true ↔ r ≤ s :=
        Ordering.isLE_iff_ne_gt.trans compare_le_iff_le
      simp [hle]

theorem lt_iff : x < y ↔ ∃ r s, rank? x = some r ∧ rank? y = some s ∧ r < s := by
  have hmodel : x < y ↔ decide (x.toModel.unpack.lt y.toModel.unpack = true) = true := Iff.rfl
  rw [hmodel, decide_eq_true_iff, UnpackedFloat.lt, compare_eq, rank?, rank?]
  cases rankOf? x.toModel.unpack with
  | none => simp
  | some r =>
    cases rankOf? y.toModel.unpack with
    | none => simp
    | some s => simp [compare_lt_iff_lt]

/-- **Where the order fails, one of the two is not a number**, or they stand the other way round. -/
theorem not_le_iff : ¬ y ≤ x ↔ x < y ∨ x.isNaN = true ∨ y.isNaN = true := by
  rw [le_iff, lt_iff, isNaN_iff, isNaN_iff]
  cases rank? x with
  | none => simp
  | some r =>
    cases rank? y with
    | none => simp
    | some s => simp

/-- What is compared is a number. -/
theorem isNaN_of_le (h : x ≤ y) : x.isNaN = false ∧ y.isNaN = false := by
  obtain ⟨r, s, hr, hs, -⟩ := le_iff.1 h
  rw [← Bool.not_eq_true, ← Bool.not_eq_true, isNaN_iff, isNaN_iff, hr, hs]
  exact ⟨Option.some_ne_none r, Option.some_ne_none s⟩

/-- A double stands where it stands, if it is a number. -/
theorem le_self (h : x.isNaN = false) : x ≤ x := by
  rw [← Bool.not_eq_true, isNaN_iff] at h
  obtain ⟨r, hr⟩ := Option.ne_none_iff_exists'.1 h
  exact le_iff.2 ⟨r, r, hr, hr, le_rfl⟩

/-- A finite double is a number, and none of the two infinite ones. -/
theorem isNaN_isInf_of_isFinite (h : x.isFinite = true) : x.isNaN = false ∧ x.isInf = false := by
  have hnan : x.isNaN = x.toModel.unpack.isNaN := rfl
  have hinf : x.isInf = x.toModel.unpack.isInf := rfl
  have hfinite : x.toModel.unpack.isFinite = true := h
  rw [hnan, hinf]
  cases hu : x.toModel.unpack with
  | notANumber | infinity s =>
    rw [hu] at hfinite
    cases hfinite
  | zero s | finite s m e hm => exact ⟨rfl, rfl⟩

theorem le_trans (hxy : x ≤ y) (hyz : y ≤ z) : x ≤ z := by
  obtain ⟨r, s, hr, hs, hrs⟩ := le_iff.1 hxy
  obtain ⟨s', t, hs', ht, hst⟩ := le_iff.1 hyz
  cases hs.symm.trans hs'
  exact le_iff.2 ⟨r, t, hr, ht, hrs.trans hst⟩

end Number
end Autograder

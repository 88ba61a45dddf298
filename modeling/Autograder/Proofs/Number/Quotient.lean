/-
# When a quotient is a number

A double that is put together again from sign, mantissa and exponent is not a number only if it was
none before (`isNaN_pack`): what is too large becomes infinite. So of the quotients by a positive
double, only those of what is not a number, and those of two infinite doubles, are not numbers
(`isNaN_div_iff`).
-/

import Autograder.Proofs.Number.Order

namespace Autograder
namespace Number

open Float.Model (UnpackedFloat Format)
open Float.Model.UnpackedFloat (unpackExponent packComponents)

/-- Only where all exponent bits are set, bits stand for anything but a finite number. -/
theorem isNaN_unpack_of_exponent {spec : Format} {b : BitVec spec.numBits}
    (h : unpackExponent b ≠ BitVec.allOnes spec.exponentBits) :
    (UnpackedFloat.unpack spec b).isNaN = false := by
  rw [← BitVec.neg_one_eq_allOnes] at h
  unfold UnpackedFloat.unpack
  simp only [if_neg h]
  split
  · split <;> rfl
  · rfl

/-- A number below the greatest one of so many bits does not set all of them. -/
theorem ofNat_ne_allOnes {width n : ℕ} (h : n + 1 < 2 ^ width) :
    BitVec.ofNat width n ≠ BitVec.allOnes width := by
  intro hall
  have hnat := congrArg BitVec.toNat hall
  rw [BitVec.toNat_ofNat, Nat.mod_eq_of_lt (by omega), BitVec.toNat_allOnes] at hnat
  omega

/-- **Putting a double together does not lose a number.** -/
theorem isNaN_pack (u : UnpackedFloat) : (Float.Model.pack u).isNaN = u.isNaN := by
  have hbits : (Float.Model.pack u).isNaN =
      (UnpackedFloat.unpack .binary64 (UnpackedFloat.pack .binary64 u)).isNaN := rfl
  rw [hbits]
  cases u with
  | notANumber => rfl
  | infinity s => cases s <;> rfl
  | zero s => cases s <;> rfl
  | finite s m e hm =>
    rw [UnpackedFloat.pack]
    split
    · cases s <;> rfl
    · rename_i hsmall
      split <;> refine isNaN_unpack_of_exponent ?_ <;>
        rw [UnpackedFloat.unpackExponent_packComponents]
      · exact ofNat_ne_allOnes (by omega)
      · exact ofNat_ne_allOnes (by decide)

/-- Rounding gives a number. -/
theorem isNaN_roundWithAccuracy (spec : Format) (s : UnpackedFloat.Sign) (m : ℕ) (e : ℤ)
    (accuracy : UnpackedFloat.Accuracy) :
    (UnpackedFloat.roundWithAccuracy spec s m e accuracy).isNaN = false := by
  unfold UnpackedFloat.roundWithAccuracy
  dsimp only
  split <;> rfl

/-- A quotient by a positive double is not a number if the dividend is none or both are infinite. -/
theorem isNaN_div_unpacked {spec : Format} {u v : UnpackedFloat} {s : Rank}
    (hs : rankOf? v = some s) (hpos : Rank.mk 0 0 0 < s) :
    (UnpackedFloat.div spec u v).isNaN = true ↔
      u.isNaN = true ∨ u.isInf = true ∧ v.isInf = true := by
  cases v with
  | notANumber => cases hs
  | zero t =>
    cases hs
    exact absurd hpos (lt_irrefl _)
  | infinity t => cases u <;> simp [UnpackedFloat.div, UnpackedFloat.isNaN, UnpackedFloat.isInf]
  | finite t m e hm =>
    cases u with
    | finite t' m' e' hm' =>
      have hround :
          (UnpackedFloat.div spec (.finite t' m' e' hm') (.finite t m e hm)).isNaN = false :=
        isNaN_roundWithAccuracy ..
      rw [hround]
      simp [UnpackedFloat.isNaN, UnpackedFloat.isInf]
    | _ => simp [UnpackedFloat.div, UnpackedFloat.isNaN, UnpackedFloat.isInf]

/-- **Which quotients are not numbers**, where the divisor is positive. -/
theorem isNaN_div_iff {x y : Float} (hy : 0.0 < y) :
    (x / y).isNaN = true ↔ x.isNaN = true ∨ x.isInf = true ∧ y.isInf = true := by
  obtain ⟨r, s, hr, hs, hrs⟩ := lt_iff.1 hy
  have hzero : rank? 0.0 = some (.mk 0 0 0) := by decide
  cases hr.symm.trans hzero
  have hdiv : (x / y).isNaN =
      (UnpackedFloat.div .binary64 x.toModel.unpack y.toModel.unpack).isNaN := isNaN_pack _
  rw [hdiv]
  exact isNaN_div_unpacked hs hrs

/-- A finite double can be divided by any positive one. -/
theorem isNaN_div_of_isFinite {x y : Float} (hx : x.isFinite = true) (hy : 0.0 < y) :
    (x / y).isNaN = false := by
  obtain ⟨hnan, hinf⟩ := isNaN_isInf_of_isFinite hx
  rw [← Bool.not_eq_true, isNaN_div_iff hy, hnan, hinf]
  simp

end Number
end Autograder

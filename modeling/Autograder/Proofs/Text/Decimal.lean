/-
# Reading decimal numbers

A number is read from digits with a `+` in front or without one (`readNat?_eq_some_iff_isNumeral`),
so it holds no blank, and trimming it changes nothing. What is written with `Nat.toDigits` is read
back (`readNat?_toDigits`).
-/

import Autograder.Proofs.Text.Blank
import Autograder.Text.Decimal

namespace Autograder
namespace Text

theorem isBlank_of_isDigit {c : Char} (h : c.isDigit = true) : isBlank c = false := by
  have hc : 48 ≤ c.toNat ∧ c.toNat ≤ 57 := by
    rw [Char.isDigit, Bool.and_eq_true, decide_eq_true_eq, decide_eq_true_eq] at h
    exact ⟨UInt32.le_iff_toNat_le.1 h.1, UInt32.le_iff_toNat_le.1 h.2⟩
  simp only [isBlank, Bool.or_eq_false_iff, Bool.and_eq_false_iff, decide_eq_false_iff_not,
    beq_eq_false_iff_ne]
  omega

theorem readDigits?_eq_some_iff {s : List Char} {n : Nat} :
    readDigits? s = some n ↔
      s ≠ [] ∧ (∀ c ∈ s, c.isDigit = true) ∧ Nat.ofDigitChars 10 s 0 = n := by
  unfold readDigits?
  split
  · rename_i h
    rw [Bool.and_eq_true, Bool.not_eq_true', List.isEmpty_eq_false_iff, List.all_eq_true] at h
    rw [Option.some.injEq]
    exact ⟨fun hn => ⟨h.1, h.2, hn⟩, fun hn => hn.2.2⟩
  · rename_i h
    rw [Bool.and_eq_true, Bool.not_eq_true', List.isEmpty_eq_false_iff, List.all_eq_true] at h
    constructor
    · intro hn
      cases hn
    · rintro ⟨hne, hdigits, -⟩
      exact absurd ⟨hne, hdigits⟩ h

theorem dropPlus_eq_or (s : List Char) : dropPlus s = s ∨ s = '+' :: dropPlus s := by
  unfold dropPlus
  split
  · exact Or.inr rfl
  · exact Or.inl rfl

theorem dropPlus_of_isDigit {s : List Char} (h : ∀ c ∈ s, c.isDigit = true) : dropPlus s = s := by
  rcases dropPlus_eq_or s with he | he
  · exact he
  · have hplus : '+'.isDigit = true := h '+' (by rw [he]; exact List.mem_cons_self ..)
    exact absurd hplus (by decide)

theorem readNat?_eq_some_iff {limit n : Nat} {s : List Char} :
    readNat? limit s = some n ↔ readDigits? (dropPlus s) = some n ∧ n ≤ limit := by
  unfold readNat?
  rw [Option.filter_eq_some_iff, decide_eq_true_eq]

/-- The digits of a number, the first of which may be zeros. -/
structure IsDigits (s : List Char) (k : Nat) : Prop where
  nonempty : s ≠ []
  digits : ∀ c ∈ s, c.isDigit = true
  value : Nat.ofDigitChars 10 s 0 = k

/-- A number as it may be written: its digits, with a `+` in front or without one. -/
inductive IsNumeral : List Char → Nat → Prop
  | digits {s : List Char} {k : Nat} : IsDigits s k → IsNumeral s k
  | signed {s : List Char} {k : Nat} : IsDigits s k → IsNumeral ('+' :: s) k

/-- **The numbers that are read are those that are written and are not too large.** -/
theorem readNat?_eq_some_iff_isNumeral {limit k : Nat} {s : List Char} :
    readNat? limit s = some k ↔ IsNumeral s k ∧ k ≤ limit := by
  rw [readNat?_eq_some_iff, readDigits?_eq_some_iff]
  refine and_congr_left fun _ => ?_
  constructor
  · rintro ⟨hne, hdigits, hvalue⟩
    rcases dropPlus_eq_or s with he | he
    · rw [he] at hne hdigits hvalue
      exact .digits ⟨hne, hdigits, hvalue⟩
    · rw [he]
      exact .signed ⟨hne, hdigits, hvalue⟩
  · rintro (h | h)
    · rw [dropPlus_of_isDigit h.digits]
      exact ⟨h.nonempty, h.digits, h.value⟩
    · exact ⟨h.nonempty, h.digits, h.value⟩

/-- The characters of a number are digits, or the sign. -/
theorem mem_of_readNat? {limit n : Nat} {s : List Char} (h : readNat? limit s = some n) {c : Char}
    (hc : c ∈ s) : c.isDigit = true ∨ c = '+' := by
  obtain ⟨-, hdigits, -⟩ := readDigits?_eq_some_iff.1 (readNat?_eq_some_iff.1 h).1
  rcases dropPlus_eq_or s with he | he
  · exact Or.inl (hdigits c (by rwa [he]))
  · rw [he] at hc
    rcases List.mem_cons.1 hc with hplus | hc
    · exact Or.inr hplus
    · exact Or.inl (hdigits c hc)

theorem trim_of_readNat? {limit n : Nat} {s : List Char} (h : readNat? limit s = some n) :
    trim s = s := by
  refine trim_eq_self fun c hc => ?_
  rcases mem_of_readNat? h hc with hd | rfl
  · exact isBlank_of_isDigit hd
  · decide

theorem not_mem_of_readNat? {limit n : Nat} {s : List Char} (h : readNat? limit s = some n)
    {c : Char} (hc : c.isDigit = false) (hplus : c ≠ '+') : c ∉ s := by
  intro hmem
  rcases mem_of_readNat? h hmem with hd | he
  · rw [hc] at hd
    cases hd
  · exact hplus he

theorem isDigit_of_mem_toDigits {n : Nat} {c : Char} (hc : c ∈ Nat.toDigits 10 n) :
    c.isDigit = true := Nat.isDigit_of_mem_toDigits (by decide) (by decide) hc

/-- A number is written on one line. -/
theorem newline_not_mem_toDigits (n : Nat) : '\n' ∉ Nat.toDigits 10 n := fun hmem =>
  absurd (isDigit_of_mem_toDigits hmem) (by decide)

/-- **A number is read back as it was written.** -/
theorem readNat?_toDigits {limit n : Nat} (h : n ≤ limit) :
    readNat? limit (Nat.toDigits 10 n) = some n := by
  have hdigits : ∀ c ∈ Nat.toDigits 10 n, c.isDigit = true := fun _ => isDigit_of_mem_toDigits
  rw [readNat?_eq_some_iff, dropPlus_of_isDigit hdigits, readDigits?_eq_some_iff]
  exact ⟨⟨Nat.toDigits_ne_nil, hdigits, Nat.ofDigitChars_ten_toDigits⟩, h⟩

end Text
end Autograder

/-
# Where a number ends

A JSON number is read as far as its characters go. What follows it is left alone if it starts with
none of the characters that a number could go on with (`Apart`), so a number is read from a longer
text just as it is from a text of its own (`readLiteral_append`).
-/

import Autograder.Json.Reader

namespace Autograder
namespace Json

/-- A character that a number could go on with. -/
def continuesNumber (c : Char) : Bool := c.isDigit || c == '.' || c == 'e' || c == 'E'

/-- A text that starts with no character that a number could go on with. -/
def Apart (rest : List Char) : Prop := ∀ c, rest.head? = some c → continuesNumber c = false

/-- A text is a number from its first character to its last. -/
def IsNumber (literal : List Char) : Prop := ∃ parts, takeNumber? literal = some (parts, [])

instance (rest : List Char) : Decidable (Apart rest) :=
  match rest with
  | [] => isTrue nofun
  | c :: _ => decidable_of_iff (continuesNumber c = false)
      ⟨fun h _ hd => Option.some.inj hd ▸ h, fun h => h c rfl⟩

instance (literal : List Char) : Decidable (IsNumber literal) :=
  match h : takeNumber? literal with
  | some (parts, []) => isTrue ⟨parts, h⟩
  | some (_, _ :: _) => isFalse fun ⟨_, hp⟩ => by cases h.symm.trans hp
  | none => isFalse fun ⟨_, hp⟩ => by cases h.symm.trans hp

variable {rest : List Char}

/-! ## Runs of characters -/

/-- A run of characters ends where a text begins that does not go on with it. -/
theorem takeWhile_append_of_head {p : Char → Bool} (h : ∀ c, rest.head? = some c → p c = false)
    (s : List Char) : (s ++ rest).takeWhile p = s.takeWhile p := by
  induction s with
  | nil =>
    cases rest with
    | nil => rfl
    | cons c r => rw [List.nil_append, List.takeWhile_cons, h c rfl, List.takeWhile_nil]; rfl
  | cons c s ih => rw [List.cons_append, List.takeWhile_cons, List.takeWhile_cons, ih]

theorem dropWhile_append_of_head {p : Char → Bool} (h : ∀ c, rest.head? = some c → p c = false)
    (s : List Char) : (s ++ rest).dropWhile p = s.dropWhile p ++ rest := by
  induction s with
  | nil =>
    cases rest with
    | nil => rfl
    | cons c r => rw [List.nil_append, List.dropWhile_cons, h c rfl]; rfl
  | cons c s ih =>
    rw [List.cons_append, List.dropWhile_cons, List.dropWhile_cons, ih]
    split <;> rfl

theorem Apart.isDigit (h : Apart rest) (c : Char) (hc : rest.head? = some c) :
    c.isDigit = false := by
  have hno := h c hc
  simp only [continuesNumber, Bool.or_eq_false_iff] at hno
  exact hno.1.1.1

theorem Apart.ne (h : Apart rest) {c : Char} (hc : rest.head? = some c) :
    c ≠ '.' ∧ c ≠ 'e' ∧ c ≠ 'E' := by
  have hno := h c hc
  simp only [continuesNumber, Bool.or_eq_false_iff, beq_eq_false_iff_ne] at hno
  exact ⟨hno.1.1.2, hno.1.2, hno.2⟩

/-! ## The parts of a number -/

theorem splitSign_append {s : List Char} (hs : s ≠ []) (rest : List Char) :
    Number.splitSign (s ++ rest) = ((Number.splitSign s).1, (Number.splitSign s).2 ++ rest) := by
  obtain ⟨c, r, rfl⟩ := List.exists_cons_of_ne_nil hs
  unfold Number.splitSign
  split <;> simp_all

theorem takeExponent?_append (h : Apart rest) {s : List Char} {e : Option Int}
    (he : takeExponent? s = some (e, [])) : takeExponent? (s ++ rest) = some (e, rest) := by
  cases s with
  | nil =>
    cases he
    cases rest with
    | nil => rfl
    | cons c r =>
      obtain ⟨-, hlower, hupper⟩ := h.ne (c := c) rfl
      simp [takeExponent?, hlower, hupper]
  | cons c r =>
    by_cases hc : c = 'e' ∨ c = 'E'
    · rw [takeExponent?, if_pos (by simpa using hc)] at he
      rw [List.cons_append, takeExponent?, if_pos (by simpa using hc)]
      have hr : r ≠ [] := by
        rintro rfl
        cases he
      dsimp only at he ⊢
      rw [splitSign_append hr]
      dsimp only
      rw [takeWhile_append_of_head h.isDigit, dropWhile_append_of_head h.isDigit]
      obtain ⟨n, hn, heq⟩ := Option.map_eq_some_iff.1 he
      rw [Prod.mk.injEq] at heq
      rw [hn, Option.map_some, heq.1, heq.2, List.nil_append]
    · rw [takeExponent?, if_neg (by simpa using hc)] at he
      cases he

theorem takeFraction?_append (h : Apart rest) {s r : List Char} {f : Option (List Char)}
    (hf : takeFraction? s = some (f, r)) : takeFraction? (s ++ rest) = some (f, r ++ rest) := by
  cases s with
  | nil =>
    cases hf
    cases rest with
    | nil => rfl
    | cons c r =>
      change takeFraction? (c :: r) = some (none, c :: r)
      rw [takeFraction?]
      rintro _ ⟨⟩
      exact (h.ne (c := '.') rfl).1 rfl
  | cons c s =>
    by_cases hc : c = '.'
    · subst hc
      rw [List.cons_append]
      rw [takeFraction?] at hf ⊢
      rw [takeWhile_append_of_head h.isDigit, dropWhile_append_of_head h.isDigit]
      split at hf
      · cases hf
      · rename_i hdigits
        cases hf
        rw [if_neg hdigits]
    · rw [takeFraction?] at hf
      · cases hf
        rw [List.cons_append, takeFraction?]
        rintro _ ⟨⟩
        exact hc rfl
      · rintro _ ⟨⟩
        exact hc rfl

/-! ## A whole number -/

/-- The number at the start of a text whose sign has been read, and what follows it. -/
def takeUnsigned? (negative : Bool) (s : List Char) : Option (NumberParts × List Char) :=
  let whole := s.takeWhile Char.isDigit
  if whole.isEmpty || (whole.head? == some '0' && 1 < whole.length) then none
  else
    match takeFraction? (s.dropWhile Char.isDigit) with
    | none => none
    | some (fraction, s) =>
      (takeExponent? s).map fun (exponent, s) => (⟨negative, whole, fraction, exponent⟩, s)

theorem takeNumber?_minus (s : List Char) : takeNumber? ('-' :: s) = takeUnsigned? true s := rfl

theorem takeNumber?_of_ne {c : Char} (hc : c ≠ '-') (s : List Char) :
    takeNumber? (c :: s) = takeUnsigned? false (c :: s) := by
  unfold takeNumber?
  split
  rename_i heq
  split at heq
  · rename_i hcons
    cases hcons
    exact absurd rfl hc
  · cases heq
    rfl

theorem takeUnsigned?_append (h : Apart rest) {negative : Bool} {s : List Char}
    {parts : NumberParts} (hs : takeUnsigned? negative s = some (parts, [])) :
    takeUnsigned? negative (s ++ rest) = some (parts, rest) := by
  unfold takeUnsigned? at hs ⊢
  dsimp only at hs ⊢
  rw [takeWhile_append_of_head h.isDigit, dropWhile_append_of_head h.isDigit]
  split at hs
  · cases hs
  · rename_i hwhole
    rw [if_neg hwhole]
    split at hs
    · cases hs
    · rename_i fraction r hf
      obtain ⟨⟨e, r'⟩, he, heq⟩ := Option.map_eq_some_iff.1 hs
      rw [Prod.mk.injEq] at heq
      obtain ⟨rfl, rfl⟩ := heq
      simp only [takeFraction?_append h hf, takeExponent?_append h he, Option.map_some]

/-- **A number is read up to its last character**, whatever text stands after it, as long as that
text does not go on with the number. -/
theorem takeNumber?_append (h : Apart rest) {s : List Char} {parts : NumberParts}
    (hs : takeNumber? s = some (parts, [])) : takeNumber? (s ++ rest) = some (parts, rest) := by
  cases s with
  | nil => cases hs
  | cons c s =>
    by_cases hc : c = '-'
    · subst hc
      rw [List.cons_append, takeNumber?_minus] at *
      exact takeUnsigned?_append h hs
    · rw [List.cons_append, takeNumber?_of_ne hc] at *
      exact takeUnsigned?_append h hs

theorem readLiteral_append (h : Apart rest) {literal : List Char} (hl : IsNumber literal) :
    readLiteral (literal ++ rest) = some (.number literal, rest) := by
  obtain ⟨parts, hp⟩ := hl
  rw [readLiteral, takeNumber?_append h hp, Option.map_some]
  dsimp only
  rw [List.length_append, Nat.add_sub_cancel, List.take_left]

/-- A number starts with a digit or a minus sign. -/
theorem IsNumber.head {literal : List Char} (hl : IsNumber literal) :
    ∃ c r, literal = c :: r ∧ (c = '-' ∨ c.isDigit = true) := by
  obtain ⟨parts, hp⟩ := hl
  cases literal with
  | nil => cases hp
  | cons c r =>
    refine ⟨c, r, rfl, ?_⟩
    by_cases hc : c = '-'
    · exact .inl hc
    · refine .inr (Bool.of_not_eq_false fun hdigit => ?_)
      rw [takeNumber?_of_ne hc, takeUnsigned?, List.takeWhile_cons, hdigit] at hp
      cases hp

end Json
end Autograder

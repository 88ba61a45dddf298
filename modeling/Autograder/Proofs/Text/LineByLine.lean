/-
# Reading a text line by line

Workload files and outputs are read alike: line after line, past those that are skipped, up to the
first line that cannot be read. `readAll` is this way of reading. It succeeds if and only if each
line that is not skipped can be read, and then gives what was read from them, one value for each
line and in their order (`readAll_eq_ok_iff`). Otherwise it fails with the error of the first line
that is not skipped and cannot be read (`readAll_zipIdx_eq_error_iff`).
-/

import Autograder.Proofs.Text.Lines
import Mathlib.Data.List.Forall2

namespace Autograder
namespace Text

variable {ε α : Type}

/-! ## One line -/

/-- What is read from a line is what the line holds, or else what is wrong with it. -/
structure Decides (x : Except ε α) (Holds : α → Prop) (HasFault : ε → Prop) : Prop where
  eq_ok_iff : ∀ a, x = .ok a ↔ Holds a
  eq_error_iff : ∀ e, x = .error e ↔ HasFault e

/-- **A reader that follows two descriptions decides between them**, if one of them fits. -/
theorem Decides.of_or {x : Except ε α} {Holds : α → Prop} {HasFault : ε → Prop}
    (hholds : ∀ a, Holds a → x = .ok a) (hfault : ∀ e, HasFault e → x = .error e)
    (hor : (∃ a, Holds a) ∨ ∃ e, HasFault e) : Decides x Holds HasFault where
  eq_ok_iff a := by
    refine ⟨fun hx => ?_, hholds a⟩
    rcases hor with ⟨b, hb⟩ | ⟨e, he⟩
    · rw [hholds b hb] at hx
      cases hx
      exact hb
    · rw [hfault e he] at hx
      cases hx
  eq_error_iff e := by
    refine ⟨fun hx => ?_, hfault e⟩
    rcases hor with ⟨a, ha⟩ | ⟨e', he'⟩
    · rw [hholds a ha] at hx
      cases hx
    · rw [hfault e' he'] at hx
      cases hx
      exact he'

/-- A line has a fault if and only if it holds nothing. -/
theorem Decides.exists_fault_iff {x : Except ε α} {Holds : α → Prop} {HasFault : ε → Prop}
    (h : Decides x Holds HasFault) : (∃ e, HasFault e) ↔ ¬ ∃ a, Holds a := by
  simp only [← h.eq_error_iff, ← h.eq_ok_iff]
  cases x <;> simp

/-- An error that is reworded is still an error, and nothing else changes. -/
theorem mapError_eq_ok_iff {ε' : Type} {x : Except ε α} {f : ε → ε'} {a : α} :
    x.mapError f = .ok a ↔ x = .ok a := by
  cases x <;> simp [Except.mapError]

theorem mapError_eq_error_iff {ε' : Type} {x : Except ε α} {f : ε → ε'} {e' : ε'} :
    x.mapError f = .error e' ↔ ∃ e, x = .error e ∧ f e = e' := by
  cases x <;> simp [Except.mapError]

/-! ## All lines -/

/-- What numbered lines hold, of which some are skipped. -/
def readAll (skip : List Char → Bool) (read : List Char → Nat → Except ε α) :
    List (List Char × Nat) → Except ε (List α)
  | [] => .ok []
  | (text, number) :: rest =>
    if skip text then readAll skip read rest
    else
      match read text number with
      | .error e => .error e
      | .ok x =>
        match readAll skip read rest with
        | .error e => .error e
        | .ok xs => .ok (x :: xs)

/-- **Reading succeeds on all lines or not at all.** -/
theorem readAll_eq_ok_iff {skip : List Char → Bool} {read : List Char → Nat → Except ε α}
    {ls : List (List Char × Nat)} {xs : List α} :
    readAll skip read ls = .ok xs ↔
      List.Forall₂ (fun l x => read l.1 l.2 = .ok x) (ls.filter fun l => !skip l.1) xs := by
  induction ls generalizing xs with
  | nil =>
    rw [List.filter_nil, List.forall₂_nil_left_iff, readAll, Except.ok.injEq]
    exact eq_comm
  | cons l ls ih =>
    obtain ⟨text, number⟩ := l
    rw [readAll]
    by_cases hskip : skip text = true
    · rw [if_pos hskip, List.filter_cons_of_neg (by simpa using hskip)]
      exact ih
    · rw [if_neg hskip, List.filter_cons_of_pos (by simpa using hskip),
        List.forall₂_cons_left_iff]
      constructor
      · intro h
        split at h
        · cases h
        · rename_i x hx
          split at h
          · cases h
          · rename_i ys hys
            cases h
            exact ⟨x, ys, hx, ih.1 hys, rfl⟩
      · rintro ⟨x, ys, hx, hys, rfl⟩
        rw [hx, ih.2 hys]

/-- A list is cut at its head, or further on. -/
theorem exists_eq_append_cons_iff {β : Type} {a : β} {ls : List β} {P : List β → β → Prop} :
    (∃ before l after, a :: ls = before ++ l :: after ∧ P before l) ↔
      P [] a ∨ ∃ before l after, ls = before ++ l :: after ∧ P (a :: before) l := by
  constructor
  · rintro ⟨before, l, after, hsplit, h⟩
    cases before with
    | nil =>
      cases hsplit
      exact Or.inl h
    | cons b before =>
      cases hsplit
      exact Or.inr ⟨before, l, after, rfl, h⟩
  · rintro (h | ⟨before, l, after, rfl, h⟩)
    · exact ⟨[], a, ls, rfl, h⟩
    · exact ⟨a :: before, l, after, rfl, h⟩

/-- **Reading fails at the first line that cannot be read**: each line before it is skipped or can
be read. Whether a line can be read does not depend on its number, but its error may. -/
theorem readAll_zipIdx_eq_error_iff {skip : List Char → Bool}
    {read : List Char → Nat → Except ε α} {Fits : List Char → Prop}
    (hfits : ∀ l number, (∃ x, read l number = .ok x) ↔ Fits l) {ls : List (List Char)}
    {first : Nat} {e : ε} :
    readAll skip read (ls.zipIdx first) = .error e ↔
      ∃ before l after, ls = before ++ l :: after ∧ (∀ k ∈ before, skip k = true ∨ Fits k) ∧
        skip l = false ∧ read l (before.length + first) = .error e := by
  induction ls generalizing first with
  | nil =>
    rw [List.zipIdx_nil, readAll]
    constructor
    · intro h
      cases h
    · rintro ⟨before, l, after, hsplit, -⟩
      simp at hsplit
  | cons a ls ih =>
    have hlater : (∃ before l after, ls = before ++ l :: after ∧
        (∀ k ∈ a :: before, skip k = true ∨ Fits k) ∧ skip l = false ∧
        read l ((a :: before).length + first) = .error e) ↔
        (skip a = true ∨ Fits a) ∧ readAll skip read (ls.zipIdx (first + 1)) = .error e := by
      rw [ih]
      simp only [List.forall_mem_cons, List.length_cons, Nat.add_assoc, Nat.add_comm 1 first]
      constructor
      · rintro ⟨before, l, after, hsplit, ⟨ha, hbefore⟩, hl⟩
        exact ⟨ha, before, l, after, hsplit, hbefore, hl⟩
      · rintro ⟨ha, before, l, after, hsplit, hbefore, hl⟩
        exact ⟨before, l, after, hsplit, ⟨ha, hbefore⟩, hl⟩
    rw [exists_eq_append_cons_iff, hlater, List.zipIdx_cons, readAll]
    by_cases hskip : skip a = true
    · simp [hskip]
    · cases hread : read a first with
      | error e' =>
        have hnot : ¬ Fits a := fun h => by
          obtain ⟨x, hx⟩ := (hfits a first).2 h
          rw [hread] at hx
          cases hx
        simp [hskip, hnot, hread]
      | ok x =>
        have hfit : Fits a := (hfits a first).1 ⟨x, hread⟩
        cases readAll skip read (ls.zipIdx (first + 1)) <;> simp [hskip, hfit, hread]

/-- The numbers of the lines decide nothing but the wording of an error. -/
theorem forall₂_numberedLines {R : List Char → α → Prop} {skip : List Char → Bool}
    {s : List Char} {xs : List α} :
    List.Forall₂ (fun l x => R l.1 x) ((numberedLines s).filter fun l => !skip l.1) xs ↔
      List.Forall₂ R ((lines s).filter fun l => !skip l) xs := by
  have hfst : ((numberedLines s).filter fun l => !skip l.1).map Prod.fst =
      (lines s).filter fun l => !skip l := by
    rw [← List.zipIdx_map_fst 1 (lines s), List.filter_map]
    rfl
  rw [← hfst, List.forall₂_map_left_iff]

/-- Each line has a value if and only if there is a list of them. -/
theorem exists_forall₂_iff {R : List Char → α → Prop} {ls : List (List Char)} :
    (∃ xs, List.Forall₂ R ls xs) ↔ ∀ l ∈ ls, ∃ x, R l x := by
  induction ls with
  | nil => exact ⟨fun _ l hl => absurd hl List.not_mem_nil, fun _ => ⟨[], .nil⟩⟩
  | cons l ls ih =>
    rw [List.forall_mem_cons, ← ih]
    constructor
    · rintro ⟨_, h⟩
      cases h with
      | cons hx hxs => exact ⟨⟨_, hx⟩, _, hxs⟩
    · rintro ⟨⟨x, hx⟩, xs, hxs⟩
      exact ⟨x :: xs, .cons hx hxs⟩

/-- What was read was read from a line. -/
theorem exists_line_of_mem {R : List Char → α → Prop} {ls : List (List Char)} {xs : List α}
    (h : List.Forall₂ R ls xs) {x : α} (hx : x ∈ xs) : ∃ l ∈ ls, R l x := by
  induction h with
  | nil => exact absurd hx List.not_mem_nil
  | cons hl _ ih =>
    rcases List.mem_cons.1 hx with rfl | hx
    · exact ⟨_, List.mem_cons_self .., hl⟩
    · obtain ⟨l, hmem, hl'⟩ := ih hx
      exact ⟨l, List.mem_cons_of_mem _ hmem, hl'⟩

end Text
end Autograder

/-
# Trimming, and the words of a text

`trim` takes blanks away at both ends and leaves the rest as it is (`trim_append_left`,
`trim_append_right`), so a second pass finds nothing to take (`trim_trim`), and a text without any
blank is left alone (`trim_eq_self`).

The words of a text are the parts between its blanks. `words` names them all; `lastWord?` looks for
the last of them from the end of the text, and finds that one (`lastWord?_eq_getLast?_words`).
-/

import Autograder.Text.Blank
import Mathlib.Data.List.DropRight
import Mathlib.Data.List.TakeWhile

namespace Autograder
namespace Text

theorem trimEnd_eq_rdropWhile (s : List Char) : trimEnd s = s.rdropWhile isBlank := rfl

/-- Blanks in front do not count. -/
theorem trim_append_left {a : List Char} (ha : ∀ c ∈ a, isBlank c = true) (s : List Char) :
    trim (a ++ s) = trim s := by
  unfold trim trimStart
  rw [List.dropWhile_append_of_pos ha]

theorem trimEnd_append_right (s : List Char) {b : List Char} (hb : ∀ c ∈ b, isBlank c = true) :
    trimEnd (s ++ b) = trimEnd s := by
  unfold trimEnd
  rw [List.reverse_append,
    List.dropWhile_append_of_pos fun c hc => hb c (List.mem_reverse.1 hc)]

/-- Blanks at the end do not count. -/
theorem trim_append_right (s : List Char) {b : List Char} (hb : ∀ c ∈ b, isBlank c = true) :
    trim (s ++ b) = trim s := by
  unfold trim trimStart
  rw [List.dropWhile_append]
  split
  · rename_i hs
    have hs' : s.dropWhile isBlank = [] := List.isEmpty_iff.1 hs
    have hb' : b.dropWhile isBlank = [] := List.dropWhile_eq_nil_iff.2 hb
    rw [hs', hb']
  · exact trimEnd_append_right _ hb

/-- What is cut off at the end was blank. -/
theorem trimEnd_isPrefix (s : List Char) : trimEnd s <+: s := by
  rw [trimEnd_eq_rdropWhile]
  exact List.rdropWhile_prefix isBlank s

theorem trim_isInfix (s : List Char) : trim s <:+: s :=
  (trimEnd_isPrefix _).isInfix.trans (List.dropWhile_suffix _).isInfix

theorem mem_of_mem_trim {c : Char} {s : List Char} (h : c ∈ trim s) : c ∈ s :=
  (trim_isInfix s).subset h

/-- A trimmed text does not start with a blank. -/
theorem trimStart_trim (s : List Char) : trimStart (trim s) = trim s := by
  unfold trimStart
  rw [List.dropWhile_eq_self_iff]
  intro hpos
  have hpre : trim s <+: trimStart s := trimEnd_isPrefix _
  have hlen : 0 < (s.dropWhile isBlank).length := lt_of_lt_of_le hpos hpre.length_le
  rw [hpre.getElem hpos]
  exact List.dropWhile_get_zero_not isBlank s hlen

/-- **Trimming once is enough.** -/
@[simp]
theorem trim_trim (s : List Char) : trim (trim s) = trim s := by
  rw [trim, trimStart_trim]
  exact List.rdropWhile_idempotent isBlank _

/-- A text without blanks is trimmed. -/
theorem trim_eq_self {s : List Char} (h : ∀ c ∈ s, isBlank c = false) : trim s = s := by
  have hstart : trimStart s = s := by
    unfold trimStart
    rw [List.dropWhile_eq_self_iff]
    intro hpos
    rw [h _ (List.getElem_mem hpos)]
    exact Bool.false_ne_true
  rw [trim, hstart, trimEnd_eq_rdropWhile, List.rdropWhile_eq_self_iff]
  intro hs
  rw [h _ (List.getLast_mem hs)]
  exact Bool.false_ne_true

/-- Nothing is left of a text if and only if it holds nothing but blanks. -/
theorem trim_eq_nil_iff {s : List Char} : trim s = [] ↔ isAllBlank s = true := by
  have hstart : (∀ c ∈ trimStart s, isBlank c = true) ↔ ∀ c ∈ s, isBlank c = true := by
    constructor
    · intro h c hc
      rw [← List.takeWhile_append_dropWhile (p := isBlank) (l := s), List.mem_append] at hc
      rcases hc with hc | hc
      · exact List.mem_takeWhile_imp hc
      · exact h c hc
    · exact fun h c hc => h c ((List.dropWhile_suffix isBlank).subset hc)
  rw [trim, trimEnd_eq_rdropWhile, List.rdropWhile_eq_nil_iff, hstart, isAllBlank, List.all_eq_true]

/-! ## Words -/

/-- The words of a text: what stands between its blanks, except where two blanks meet. -/
def words (s : List Char) : List (List Char) := (s.splitOnP isBlank).filter fun w => !w.isEmpty

theorem words_eq_singleton {w : List Char} (hw : w ≠ []) (h : ∀ c ∈ w, isBlank c = false) :
    words w = [w] := by
  unfold words
  rw [List.splitOnP_eq_singleton h]
  exact List.filter_cons_of_pos (by simpa using hw)

/-- A blank divides the words of a text. -/
theorem words_append_cons (s r : List Char) {c : Char} (hc : isBlank c = true) :
    words (s ++ c :: r) = words s ++ words r := by
  unfold words
  rw [List.splitOnP_append_cons s r hc, List.filter_append]

/-- Blanks at the end are not part of a word. -/
theorem words_append_blanks (s : List Char) {b : List Char} (hb : ∀ c ∈ b, isBlank c = true) :
    words (s ++ b) = words s := by
  induction b generalizing s with
  | nil => rw [List.append_nil]
  | cons c b ih =>
    have hc : isBlank c = true := hb c (List.mem_cons_self ..)
    have hnil : words b = words [] := ih [] fun d hd => hb d (List.mem_cons_of_mem _ hd)
    rw [words_append_cons s b hc, hnil]
    exact List.append_nil _

theorem words_trimEnd (s : List Char) : words (trimEnd s) = words s := by
  have hsplit : trimEnd s ++ s.rtakeWhile isBlank = s := List.rdropWhile_append_rtakeWhile
  calc words (trimEnd s)
      = words (trimEnd s ++ s.rtakeWhile isBlank) :=
        (words_append_blanks _ fun _ hc => List.mem_rtakeWhile_imp hc).symm
    _ = words s := by rw [hsplit]

/-- The word that a text ends with, if it does not end with a blank. -/
theorem getLast?_words {s : List Char} (hs : s ≠ []) (h : isBlank (s.getLast hs) = false) :
    (words s).getLast? = some (s.rtakeWhile fun c => !isBlank c) := by
  set w := s.rtakeWhile fun c => !isBlank c with hw
  have hnb : ∀ c ∈ w, isBlank c = false := fun c hc => by
    simpa using List.mem_rtakeWhile_imp hc
  have hne : w ≠ [] := by
    rw [hw, ne_eq, List.rtakeWhile_eq_nil_iff]
    intro hall
    exact hall hs (by rw [h]; rfl)
  obtain ⟨pre, hpre⟩ : ∃ pre, pre = s.rdropWhile fun c => !isBlank c := ⟨_, rfl⟩
  have hsplit : pre ++ w = s := by
    rw [hpre, hw]
    exact List.rdropWhile_append_rtakeWhile
  rcases List.eq_nil_or_concat' pre with hnil | ⟨pre', b, hb⟩
  · rw [hnil, List.nil_append] at hsplit
    rw [← hsplit, words_eq_singleton hne hnb]
    rfl
  · have hblank : isBlank b = true := by
      have hlast := List.rdropWhile_last_not (fun c => !isBlank c) s
        (by rw [← hpre, hb]; exact List.concat_ne_nil _ _)
      simpa [← hpre, hb] using hlast
    rw [← hsplit, hb, List.append_assoc, List.singleton_append, words_append_cons pre' w hblank,
      words_eq_singleton hne hnb]
    exact List.getLast?_concat

theorem lastWord?_eq_rtakeWhile (s : List Char) :
    lastWord? s = if (trimEnd s).rtakeWhile (fun c => !isBlank c) = [] then none
      else some ((trimEnd s).rtakeWhile fun c => !isBlank c) := by
  unfold lastWord? trimEnd List.rtakeWhile
  rw [List.reverse_reverse]
  cases (s.reverse.dropWhile isBlank).takeWhile fun c => !isBlank c with
  | nil => rfl
  | cons c r => simp

/-- **`lastWord?` finds the last of the words.** -/
theorem lastWord?_eq_getLast?_words (s : List Char) : lastWord? s = (words s).getLast? := by
  rw [lastWord?_eq_rtakeWhile, ← words_trimEnd]
  by_cases hs : trimEnd s = []
  · rw [hs]
    rfl
  · have hlast : isBlank ((trimEnd s).getLast hs) = false :=
      Bool.eq_false_iff.2 (List.rdropWhile_last_not isBlank s hs)
    have hne : (trimEnd s).rtakeWhile (fun c => !isBlank c) ≠ [] := by
      rw [ne_eq, List.rtakeWhile_eq_nil_iff]
      intro hall
      exact hall hs (by rw [hlast]; rfl)
    rw [if_neg hne, getLast?_words hs hlast]

end Text
end Autograder

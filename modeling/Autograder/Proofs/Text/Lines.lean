/-
# Lines and cuts

A text falls into lines at its line feeds. What comes before a line feed and what comes after it
are read independently of each other (`lines_append`), so a text made of terminated lines has these
lines, each without the carriage return it may end with (`lines_terminated`), and other lines after
them do not change them. `HasLines` says how any text falls into lines, and `lines` finds them
(`hasLines_iff`).

`splitAtFirst` cuts at the first occurrence of a character: the two parts and the character between
them are the text, and the character is not in the first part (`splitAtFirst_eq_some_iff`).
-/

import Autograder.Proofs.Text.Blank
import Autograder.Text.Lines

namespace Autograder
namespace Text

/-- A line without the carriage return that it may end with. -/
def withoutReturn (l : List Char) : List Char := closeLine l.reverse

theorem withoutReturn_concat (l : List Char) : withoutReturn (l ++ ['\r']) = l := by
  unfold withoutReturn
  rw [List.reverse_append, List.reverse_singleton, List.singleton_append, closeLine,
    List.reverse_reverse]

theorem withoutReturn_of_ne {l : List Char} (h : l.getLast? ≠ some '\r') :
    withoutReturn l = l := by
  unfold withoutReturn closeLine
  split
  · rename_i r hr
    rw [List.reverse_eq_cons_iff] at hr
    exact absurd (by rw [hr, List.getLast?_concat]) h
  · exact List.reverse_reverse l

/-- Either there is no carriage return at the end, or it goes. -/
theorem withoutReturn_eq_or (l : List Char) :
    withoutReturn l = l ∨ l = withoutReturn l ++ ['\r'] := by
  by_cases h : l.getLast? = some '\r'
  · obtain ⟨r, rfl⟩ := List.getLast?_eq_some_iff.1 h
    exact Or.inr (by rw [withoutReturn_concat])
  · exact Or.inl (withoutReturn_of_ne h)

theorem mem_of_mem_withoutReturn {c : Char} {l : List Char} (h : c ∈ withoutReturn l) : c ∈ l := by
  rcases withoutReturn_eq_or l with he | he
  · rwa [he] at h
  · rw [he]
    exact List.mem_append_left _ h

/-- A carriage return is blank, so trimming does not see whether it was dropped. -/
theorem trim_withoutReturn (l : List Char) : trim (withoutReturn l) = trim l := by
  rcases withoutReturn_eq_or l with he | he
  · rw [he]
  · have hr : ∀ c ∈ ['\r'], isBlank c = true := fun c hc => by rw [List.mem_singleton.1 hc]; rfl
    conv_rhs => rw [he]
    rw [trim_append_right _ hr]

/-- A trimmed text has no carriage return at its end. -/
theorem withoutReturn_of_trim_eq {l : List Char} (h : trim l = l) : withoutReturn l = l := by
  rcases withoutReturn_eq_or l with he | he
  · exact he
  · have hlength := (trim_isInfix (withoutReturn l)).length_le
    rw [trim_withoutReturn, h] at hlength
    have hconcat := congrArg List.length he
    rw [List.length_append, List.length_singleton] at hconcat
    omega

/-- A carriage return at the end of the rest of a line is the one at the end of the line. -/
theorem withoutReturn_append_cons (a b : List Char) {c : Char} (hc : c ≠ '\r') :
    withoutReturn (a ++ c :: b) = a ++ c :: withoutReturn b := by
  rcases withoutReturn_eq_or b with he | he
  · rw [he]
    apply withoutReturn_of_ne
    rw [List.getLast?_append, List.getLast?_cons]
    cases hb : b.getLast? with
    | none => simpa using hc
    | some d =>
      intro hd
      have hd' : d = '\r' := by simpa using hd
      obtain ⟨r, rfl⟩ := List.getLast?_eq_some_iff.1 hb
      rw [hd', withoutReturn_concat] at he
      exact absurd (congrArg List.length he) (by simp)
  · conv_lhs => rw [he]
    rw [← List.cons_append, ← List.append_assoc, withoutReturn_concat]

/-! ## Lines -/

theorem linesFrom_append (line s r : List Char) :
    linesFrom line (s ++ '\n' :: r) = linesFrom line (s ++ ['\n']) ++ lines r := by
  induction s generalizing line with
  | nil => rfl
  | cons c s ih =>
    rw [List.cons_append, List.cons_append, linesFrom, linesFrom]
    split
    · rw [ih, List.cons_append]
    · exact ih _

/-- **A line feed divides the lines of a text.** -/
theorem lines_append (s r : List Char) :
    lines (s ++ '\n' :: r) = lines (s ++ ['\n']) ++ lines r := linesFrom_append [] s r

theorem linesFrom_line (line : List Char) {l : List Char} (hl : '\n' ∉ l) :
    linesFrom line (l ++ ['\n']) = [closeLine (l.reverse ++ line)] := by
  induction l generalizing line with
  | nil => rfl
  | cons c l ih =>
    have hc : c ≠ '\n' := fun h => hl (by rw [h]; exact List.mem_cons_self ..)
    have hl' : '\n' ∉ l := fun h => hl (List.mem_cons_of_mem _ h)
    rw [List.cons_append, linesFrom, if_neg hc, ih _ hl', List.reverse_cons, List.append_assoc,
      List.singleton_append]

/-- One line with its line feed. -/
theorem lines_line {l : List Char} (hl : '\n' ∉ l) : lines (l ++ ['\n']) = [withoutReturn l] := by
  rw [lines, linesFrom_line [] hl, List.append_nil]
  rfl

/-- The text in which a line feed follows each of some parts. -/
def terminated (ls : List (List Char)) : List Char := ls.flatMap fun l => l ++ ['\n']

theorem terminated_cons (l : List Char) (ls : List (List Char)) :
    terminated (l :: ls) = l ++ '\n' :: terminated ls := by
  unfold terminated
  rw [List.flatMap_cons, List.append_assoc, List.singleton_append]

/-- The parts are read one after the other, and then what follows them. -/
theorem lines_terminated_append (ls : List (List Char)) (r : List Char) :
    lines (terminated ls ++ r) = (ls.flatMap fun l => lines (l ++ ['\n'])) ++ lines r := by
  induction ls with
  | nil => rfl
  | cons l ls ih =>
    rw [terminated_cons, List.append_assoc, List.cons_append, lines_append, ih, List.flatMap_cons,
      List.append_assoc]

/-- **Terminated lines are the lines of their text**, without their carriage returns. -/
theorem lines_terminated {ls : List (List Char)} (hls : ∀ l ∈ ls, '\n' ∉ l) :
    lines (terminated ls) = ls.map withoutReturn := by
  induction ls with
  | nil => rfl
  | cons l ls ih =>
    have hl : '\n' ∉ l := hls l (List.mem_cons_self ..)
    rw [terminated_cons, lines_append, lines_line hl,
      ih fun k hk => hls k (List.mem_cons_of_mem _ hk), List.map_cons, List.singleton_append]

/-- Cut at its line feeds, a text of terminated parts falls into them. Nothing follows the last line
feed. -/
theorem splitOn_terminated {ls : List (List Char)} (hls : ∀ l ∈ ls, '\n' ∉ l) :
    (terminated ls).splitOn '\n' = ls ++ [[]] := by
  induction ls with
  | nil => rfl
  | cons l ls ih =>
    have hl : '\n' ∉ l := hls l (List.mem_cons_self ..)
    rw [terminated_cons, List.splitOn_append_cons_self_of_not_mem hl,
      ih fun k hk => hls k (List.mem_cons_of_mem _ hk), List.cons_append]

/-- **Parts in another order have their lines in another order.** -/
theorem lines_perm {ls ks : List (List Char)} (h : ls.Perm ks) (r : List Char) :
    (lines (terminated ls ++ r)).Perm (lines (terminated ks ++ r)) := by
  rw [lines_terminated_append, lines_terminated_append]
  exact (h.flatMap_right _).append_right _

theorem not_mem_of_mem_linesFrom {line s : List Char} (hline : '\n' ∉ line) {l : List Char}
    (hl : l ∈ linesFrom line s) : '\n' ∉ l := by
  induction s generalizing line with
  | nil =>
    unfold linesFrom at hl
    split at hl
    · exact absurd hl List.not_mem_nil
    · rw [List.mem_singleton.1 hl, List.mem_reverse]
      exact hline
  | cons c s ih =>
    unfold linesFrom at hl
    split at hl
    · rcases List.mem_cons.1 hl with rfl | hl
      · intro hmem
        rw [← List.reverse_reverse line] at hmem
        exact hline (List.mem_reverse.1 (mem_of_mem_withoutReturn hmem))
      · exact ih List.not_mem_nil hl
    · rename_i hc
      refine ih ?_ hl
      rw [List.mem_cons]
      rintro (h | h)
      · exact hc h.symm
      · exact hline h

/-- There is no line feed within a line. -/
theorem not_mem_of_mem_lines {s l : List Char} (hl : l ∈ lines s) : '\n' ∉ l :=
  not_mem_of_mem_linesFrom List.not_mem_nil hl

theorem linesFrom_of_not_mem (line : List Char) {l : List Char} (hl : '\n' ∉ l) :
    linesFrom line l = linesFrom (l.reverse ++ line) [] := by
  induction l generalizing line with
  | nil => rfl
  | cons c l ih =>
    have hc : c ≠ '\n' := fun h => hl (by rw [h]; exact List.mem_cons_self ..)
    have hl' : '\n' ∉ l := fun h => hl (List.mem_cons_of_mem _ h)
    have hstep : linesFrom line (c :: l) = linesFrom (c :: line) l := by rw [linesFrom, if_neg hc]
    rw [hstep, ih _ hl', List.reverse_cons, List.append_assoc, List.singleton_append]

/-- A text without a line feed is a line as it stands. -/
theorem lines_of_not_mem {l : List Char} (hne : l ≠ []) (hl : '\n' ∉ l) : lines l = [l] := by
  have hempty : (l.reverse ++ []).isEmpty = false := by simpa using hne
  rw [lines, linesFrom_of_not_mem [] hl, linesFrom, hempty, List.append_nil, List.reverse_reverse]
  rfl

/-- The first line of a text, and the lines of the rest. -/
theorem lines_append_newline {l : List Char} (hl : '\n' ∉ l) (r : List Char) :
    lines (l ++ '\n' :: r) = withoutReturn l :: lines r := by
  rw [lines_append, lines_line hl, List.singleton_append]

/-- How a text falls into lines. A line stands before a line feed, and a carriage return right
before the line feed ends the line with it. What follows the last line feed is a line if it is not
empty, and it is one as it stands. -/
inductive HasLines : List Char → List (List Char) → Prop
  | nil : HasLines [] []
  | last {l : List Char} : l ≠ [] → '\n' ∉ l → HasLines l [l]
  | newline {l r : List Char} {ls : List (List Char)} : '\n' ∉ l → l.getLast? ≠ some '\r' →
      HasLines r ls → HasLines (l ++ '\n' :: r) (l :: ls)
  | returnNewline {l r : List Char} {ls : List (List Char)} : '\n' ∉ l → HasLines r ls →
      HasLines (l ++ '\r' :: '\n' :: r) (l :: ls)

theorem HasLines.lines_eq {s : List Char} {ls : List (List Char)} (h : HasLines s ls) :
    lines s = ls := by
  induction h with
  | nil => rfl
  | last hne hl => exact lines_of_not_mem hne hl
  | newline hl hreturn _ ih => rw [lines_append_newline hl, withoutReturn_of_ne hreturn, ih]
  | @returnNewline l r ls hl _ ih =>
    have hl' : '\n' ∉ l ++ ['\r'] := by
      rw [List.mem_append, List.mem_singleton]
      rintro (h | h)
      · exact hl h
      · exact absurd h (by decide)
    have happend : l ++ '\r' :: '\n' :: r = (l ++ ['\r']) ++ '\n' :: r := by
      rw [List.append_assoc, List.singleton_append]
    rw [happend, lines_append_newline hl', withoutReturn_concat, ih]

/-- **Each text falls into its lines.** -/
theorem hasLines_lines (s : List Char) : HasLines s (lines s) := by
  by_cases hmem : '\n' ∈ s
  · obtain ⟨l, r, hs, hl⟩ := List.eq_append_cons_of_mem hmem
    have hshorter : r.length < s.length := by
      rw [hs, List.length_append, List.length_cons]
      omega
    have hrest : HasLines r (lines r) := hasLines_lines r
    rw [hs, lines_append_newline hl]
    by_cases hreturn : l.getLast? = some '\r'
    · obtain ⟨k, rfl⟩ := List.getLast?_eq_some_iff.1 hreturn
      have hk : '\n' ∉ k := fun h => hl (List.mem_append_left _ h)
      rw [withoutReturn_concat, List.append_assoc, List.singleton_append]
      exact .returnNewline hk hrest
    · rw [withoutReturn_of_ne hreturn]
      exact .newline hl hreturn hrest
  · by_cases hne : s = []
    · rw [hne]
      exact .nil
    · rw [lines_of_not_mem hne hmem]
      exact .last hne hmem
termination_by s.length

/-- **`lines` cuts a text at its line feeds**, together with the carriage returns before them. -/
theorem hasLines_iff {s : List Char} {ls : List (List Char)} : HasLines s ls ↔ lines s = ls := by
  refine ⟨HasLines.lines_eq, ?_⟩
  rintro rfl
  exact hasLines_lines s

/-! ## Cuts -/

theorem splitAtFirst_append_cons {sep : Char} {a : List Char} (ha : sep ∉ a) (b : List Char) :
    splitAtFirst sep (a ++ sep :: b) = some (a, b) := by
  have hne : ∀ c ∈ a, (c != sep) = true := fun c hc => by
    rw [bne_iff_ne]
    rintro rfl
    exact ha hc
  unfold splitAtFirst
  rw [List.dropWhile_append_of_pos hne, List.takeWhile_append_of_pos hne]
  simp

theorem splitAtFirst_of_not_mem {sep : Char} {s : List Char} (hs : sep ∉ s) :
    splitAtFirst sep s = none := by
  have hnil : s.dropWhile (· != sep) = [] := by
    rw [List.dropWhile_eq_nil_iff]
    intro c hc
    rw [bne_iff_ne]
    rintro rfl
    exact hs hc
  unfold splitAtFirst
  rw [hnil]

/-- **The parts of a text at the first occurrence of a character.** -/
theorem splitAtFirst_eq_some_iff {sep : Char} {s a b : List Char} :
    splitAtFirst sep s = some (a, b) ↔ s = a ++ sep :: b ∧ sep ∉ a := by
  constructor
  · intro h
    by_cases hmem : sep ∈ s
    · obtain ⟨x, y, rfl, hx⟩ := List.eq_append_cons_of_mem hmem
      rw [splitAtFirst_append_cons hx] at h
      obtain ⟨rfl, rfl⟩ := Prod.mk.inj (Option.some.inj h)
      exact ⟨rfl, hx⟩
    · rw [splitAtFirst_of_not_mem hmem] at h
      cases h
  · rintro ⟨rfl, ha⟩
    exact splitAtFirst_append_cons ha b

theorem splitAtFirst_eq_none_iff {sep : Char} {s : List Char} :
    splitAtFirst sep s = none ↔ sep ∉ s := by
  refine ⟨fun h hmem => ?_, splitAtFirst_of_not_mem⟩
  obtain ⟨x, y, rfl, hx⟩ := List.eq_append_cons_of_mem hmem
  rw [splitAtFirst_append_cons hx] at h
  cases h

end Text
end Autograder

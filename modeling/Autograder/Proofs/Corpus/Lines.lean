/-
# Where the lines of a corpus file go

A line of a corpus file that is neither blank nor a separator is a line of text. The entries of the
corpus have the lines of text of the file in their order, no more and no fewer, and two that follow
each other are in the same entry if and only if the file has separators but none of them stands
between the two (`KeepsLines`, `ofText_keeps_lines`). Without a line of text there is no corpus.

Which entry a line is in is read off `placed`, where each line has the number of its entry. Lines on
either side of a cut between groups have different numbers (`placed_of_cut`), and lines of one group
have the same number (`placed_of_group`). A separator is such a cut (`exists_sections_cut`), and
lines without a separator between them are in one section (`exists_section_around`).
-/

import Autograder.Proofs.Corpus.Sections

namespace Autograder
namespace Corpus

/-! ## Members of groups -/

section Placed

variable {α : Type} {n : Nat} {gs hs : List (List α)}

/-- The members of some groups in their order, each with the number of its group. The first group
has the number `n`. -/
def placed (n : Nat) (gs : List (List α)) : List (α × Nat) :=
  (gs.zipIdx n).flatMap fun (g, i) => g.map fun x => (x, i)

theorem placed_cons (n : Nat) (g : List α) (gs : List (List α)) :
    placed n (g :: gs) = g.map (fun x => (x, n)) ++ placed (n + 1) gs := by
  simp [placed]

theorem placed_append (n : Nat) (gs hs : List (List α)) :
    placed n (gs ++ hs) = placed n gs ++ placed (n + gs.length) hs := by
  simp [placed, List.zipIdx_append]

/-- Nothing but numbers is put to the members. -/
theorem map_fst_placed (n : Nat) (gs : List (List α)) :
    (placed n gs).map Prod.fst = gs.flatten := by
  induction gs generalizing n with
  | nil => rfl
  | cons g gs ih =>
    rw [placed_cons, List.map_append, ih, List.flatten_cons, List.map_map]
    simp [Function.comp_def]

theorem bounds_of_mem_placed {x : α} {i : Nat} (h : (x, i) ∈ placed n gs) :
    n ≤ i ∧ i < n + gs.length := by
  obtain ⟨⟨g, j⟩, hg, hx⟩ := List.mem_flatMap.1 h
  obtain ⟨y, -, hy⟩ := List.mem_map.1 hx
  have hj := List.mem_zipIdx hg
  have hij : j = i := (Prod.mk.inj hy).2
  omega

/-- **Members on either side of a cut are in different groups.** -/
theorem placed_of_cut {as cs : List α} {x y : α} (hg : gs.flatten = as ++ [x])
    (hh : hs.flatten = y :: cs) :
    ∃ i j, (placed n (gs ++ hs))[as.length]? = some (x, i) ∧
      (placed n (gs ++ hs))[as.length + 1]? = some (y, j) ∧ i ≠ j := by
  rw [← map_fst_placed n, List.map_eq_append_iff] at hg
  obtain ⟨before, last, hbefore, rfl, hlast⟩ := hg
  obtain ⟨⟨x, i⟩, rfl, rfl⟩ := List.map_eq_singleton_iff.1 hlast
  rw [← map_fst_placed (n + gs.length), List.map_eq_cons_iff] at hh
  obtain ⟨⟨y, j⟩, after, hafter, rfl, -⟩ := hh
  have hmemi : (x, i) ∈ placed n gs := by simp [hbefore]
  have hmemj : (y, j) ∈ placed (n + gs.length) hs := by simp [hafter]
  have hi := bounds_of_mem_placed hmemi
  have hj := bounds_of_mem_placed hmemj
  refine ⟨i, j, ?_, ?_, by omega⟩ <;> simp [placed_append, hbefore, hafter]

/-- **Members of one group that follow each other** have its number. -/
theorem placed_of_group {as us : List α} (has : gs.flatten ++ us = as) (x y : α) (vs : List α)
    (hs : List (List α)) :
    ∃ i, (placed n (gs ++ (us ++ x :: y :: vs) :: hs))[as.length]? = some (x, i) ∧
      (placed n (gs ++ (us ++ x :: y :: vs) :: hs))[as.length + 1]? = some (y, i) := by
  set before := placed n gs ++ us.map fun u => (u, n + gs.length) with hbefore
  have hlength : as.length = before.length := by
    rw [← has, hbefore, ← map_fst_placed n gs]
    simp
  have hplaced : placed n (gs ++ (us ++ x :: y :: vs) :: hs) =
      before ++ (x, n + gs.length) :: (y, n + gs.length) ::
        (vs.map (fun v => (v, n + gs.length)) ++ placed (n + gs.length + 1) hs) := by
    simp [hbefore, placed_append, placed_cons]
  rw [hplaced, hlength]
  exact ⟨n + gs.length, by simp, by simp⟩

end Placed

/-! ## Lines of text -/

/-- A line of a corpus file that is neither blank nor a separator. -/
def isTextLine (l : List Char) : Bool := !Text.isAllBlank l && !isSeparator l

theorem isTextLine_iff {l : List Char} :
    isTextLine l = true ↔ Text.isAllBlank l = false ∧ isSeparator l = false := by
  simp [isTextLine]

/-- The lines of entries that are not blank, each with the number of its entry, from 0 on. -/
def placedLines (entries : List String) : List (List Char × Nat) :=
  placed 0 (entries.map fun e => textLines e.toList)

/-- Nothing is lost on the way from the lines of a corpus file to its entries, nothing comes in, and
nothing changes its place. -/
structure KeepsLines (lines : List (List Char)) (entries : List String) : Prop where
  notBlank : ∀ e ∈ entries, Text.isAllBlank e.toList = false
  noSeparator : ∀ e ∈ entries, ∀ l ∈ entryLines e.toList, isSeparator l = false
  textLines : (entries.flatMap fun e => entryLines e.toList).filter (fun l => !Text.isAllBlank l) =
    lines.filter isTextLine
  together : ∀ a l b k c, lines = a ++ l :: (b ++ k :: c) → isTextLine l = true →
    isTextLine k = true → (∀ m ∈ b, isTextLine m = false) →
    ∃ i j, (placedLines entries)[a.countP isTextLine]? = some (l, i) ∧
      (placedLines entries)[a.countP isTextLine + 1]? = some (k, j) ∧
      (i = j ↔ (∃ s ∈ lines, isSeparator s = true) ∧ ∀ m ∈ b, isSeparator m = false)

/-- The lines of sections that are not blank, without the sections that have none. -/
def textGroups (gs : List (List (List Char))) : List (List (List Char)) :=
  (gs.map fun g => g.filter fun l => !Text.isAllBlank l).filter fun g => !g.isEmpty

theorem textGroups_append (gs hs : List (List (List Char))) :
    textGroups (gs ++ hs) = textGroups gs ++ textGroups hs := by
  simp [textGroups]

theorem textGroups_cons {g : List (List Char)} (h : (g.filter fun l => !Text.isAllBlank l) ≠ [])
    (gs : List (List (List Char))) :
    textGroups (g :: gs) = (g.filter fun l => !Text.isAllBlank l) :: textGroups gs := by
  rw [textGroups, List.map_cons, List.filter_cons_of_pos (by simpa using h), textGroups]

theorem flatten_textGroups (gs : List (List (List Char))) :
    (textGroups gs).flatten = gs.flatten.filter fun l => !Text.isAllBlank l := by
  rw [textGroups, List.flatten_filter_not_isEmpty, List.filter_flatten]

theorem filter_nonSeparators (ls : List (List Char)) :
    (ls.filter fun l => !isSeparator l).filter (fun l => !Text.isAllBlank l) =
      ls.filter isTextLine := by
  rw [List.filter_filter]
  rfl

/-- A separator is not blank. -/
theorem isAllBlank_of_isSeparator {l : List Char} (h : isSeparator l = true) :
    Text.isAllBlank l = false := by
  have hpercent : '%' ∈ Text.trimEnd l := by
    rw [beq_iff_eq.1 h]
    exact List.mem_singleton_self '%'
  rw [Text.isAllBlank, List.all_eq_false]
  exact ⟨'%', (Text.trimEnd_isPrefix l).subset hpercent, by decide⟩

/-- **The entries of a file have the lines of text of its sections.** -/
theorem map_textLines_keptEntries (text : List Char) :
    (keptEntries text).map textLines = textGroups (sections (Text.lines text)) := by
  have hjoin : ∀ g ∈ sections (Text.lines text),
      textLines (joinLines g) = g.filter fun l => !Text.isAllBlank l := fun g hg =>
    textLines_joinLines (newline_not_mem_of_mem_sections hg)
  have hkept (es : List (List Char)) : (es.filter fun e => !Text.isAllBlank e).map textLines =
      (es.map textLines).filter fun g => !g.isEmpty := by
    rw [List.filter_map]
    simp [Function.comp_def, isEmpty_textLines]
  rw [keptEntries, hkept, rawEntries_eq, List.map_map, textGroups]
  exact congrArg _ (List.map_congr_left hjoin)

/-- The entries of a corpus fall into the lines of text of the file. -/
theorem flatMap_textLines_keptEntries (text : List Char) :
    (keptEntries text).flatMap textLines = (Text.lines text).filter isTextLine := by
  rw [List.flatMap_def, map_textLines_keptEntries, flatten_textGroups, flatten_sections,
    filter_nonSeparators]

/-! ## Two lines of text that follow each other -/

variable {a b c : List (List Char)} {l k : List Char}

/-- A cut after a line of text is right behind it, however many lines without text are there. -/
theorem filter_isTextLine_before (hl : isTextLine l = true)
    (hb : ∀ m ∈ b, isTextLine m = false) :
    (a ++ l :: b).filter isTextLine = a.filter isTextLine ++ [l] := by
  have hnone : b.filter isTextLine = [] := List.filter_eq_nil_iff.2 (by simpa using hb)
  rw [List.filter_append, List.filter_cons_of_pos hl, hnone]

/-- A cut before a line of text. -/
theorem filter_isTextLine_after (hk : isTextLine k = true)
    (hb : ∀ m ∈ b, isTextLine m = false) :
    (b ++ k :: c).filter isTextLine = k :: c.filter isTextLine := by
  have hnone : b.filter isTextLine = [] := List.filter_eq_nil_iff.2 (by simpa using hb)
  rw [List.filter_append, hnone, List.filter_cons_of_pos hk, List.nil_append]

/-- Without separators each line is a section. -/
theorem flatten_textGroups_singletons {ls : List (List Char)}
    (h : ∀ m ∈ ls, isSeparator m = false) :
    (textGroups (ls.map fun m => [m])).flatten = ls.filter isTextLine := by
  rw [flatten_textGroups, ← List.flatMap_def, List.flatMap_singleton']
  refine List.filter_congr fun m hm => ?_
  rw [isTextLine, h m hm, Bool.not_false, Bool.and_true]

/-- **Lines of text are in different sections** unless there are separators, but none between
them. -/
theorem exists_sections_cut (hl : isTextLine l = true) (hk : isTextLine k = true)
    (hb : ∀ m ∈ b, isTextLine m = false)
    (h : (∃ s ∈ a ++ l :: (b ++ k :: c), isSeparator s = true) → ∃ s ∈ b, isSeparator s = true) :
    ∃ gs hs, sections (a ++ l :: (b ++ k :: c)) = gs ++ hs ∧
      (textGroups gs).flatten = a.filter isTextLine ++ [l] ∧
      (textGroups hs).flatten = k :: c.filter isTextLine := by
  unfold sections
  split_ifs with hany
  · obtain ⟨s, hs, hsep⟩ := h (List.any_eq_true.1 hany)
    obtain ⟨b₁, b₂, rfl⟩ := List.append_of_mem hs
    refine ⟨(a ++ l :: b₁).splitOnP isSeparator, (b₂ ++ k :: c).splitOnP isSeparator, ?_, ?_, ?_⟩
    · rw [← List.splitOnP_append_cons _ _ hsep]
      simp
    · rw [flatten_textGroups, flatten_splitOnP, filter_nonSeparators]
      exact filter_isTextLine_before hl fun m hm => hb m (by simp [hm])
    · rw [flatten_textGroups, flatten_splitOnP, filter_nonSeparators]
      exact filter_isTextLine_after hk fun m hm => hb m (by simp [hm])
  · have hnone : ∀ m ∈ a ++ l :: (b ++ k :: c), isSeparator m = false := fun m hm =>
      Bool.eq_false_iff.2 fun hm' => hany (List.any_eq_true.2 ⟨m, hm, hm'⟩)
    refine ⟨(a ++ [l]).map fun m => [m], (b ++ k :: c).map fun m => [m], by simp, ?_, ?_⟩
    · rw [flatten_textGroups_singletons fun m hm => hnone m (by simp at hm ⊢; tauto)]
      exact filter_isTextLine_before hl (by simp)
    · rw [flatten_textGroups_singletons fun m hm => hnone m (by simp at hm ⊢; tauto)]
      exact filter_isTextLine_after hk hb

/-- **Lines of text are in one section** if there are separators, but none between them. -/
theorem exists_section_around (hl : isTextLine l = true) (hk : isTextLine k = true)
    (hb : ∀ m ∈ b, isTextLine m = false)
    (hany : ∃ s ∈ a ++ l :: (b ++ k :: c), isSeparator s = true)
    (hnone : ∀ m ∈ b, isSeparator m = false) :
    ∃ gs us vs hs, textGroups (sections (a ++ l :: (b ++ k :: c))) =
        gs ++ (us ++ l :: k :: vs) :: hs ∧ gs.flatten ++ us = a.filter isTextLine := by
  rw [isTextLine_iff] at hl hk
  have hfree : ∀ d ∈ l :: (b ++ [k]), isSeparator d = false := by
    simp only [List.mem_cons, List.mem_append, List.not_mem_nil, or_false]
    rintro d (rfl | hd | rfl)
    · exact hl.2
    · exact hnone d hd
    · exact hk.2
  have hblank : b.filter (fun m => !Text.isAllBlank m) = [] := by
    refine List.filter_eq_nil_iff.2 fun m hm => ?_
    have htext := hb m hm
    rw [isTextLine, hnone m hm, Bool.not_false, Bool.and_true] at htext
    rw [htext]
    exact Bool.false_ne_true
  obtain ⟨gs, u, v, hs, hsplit, hbefore⟩ := splitOnP_around hfree a c
  have hline : a ++ l :: (b ++ k :: c) = a ++ (l :: (b ++ [k]) ++ c) := by simp
  refine ⟨textGroups gs, u.filter fun m => !Text.isAllBlank m,
    v.filter fun m => !Text.isAllBlank m, textGroups hs, ?_, ?_⟩
  · have hgroup : (u ++ (l :: (b ++ [k]) ++ v)).filter (fun m => !Text.isAllBlank m) =
        u.filter (fun m => !Text.isAllBlank m) ++
          l :: k :: v.filter fun m => !Text.isAllBlank m := by
      simp [hblank, hl.1, hk.1]
    rw [sections, if_pos (List.any_eq_true.2 hany), hline, hsplit, textGroups_append,
      textGroups_cons (by rw [hgroup]; simp), hgroup]
  · rw [flatten_textGroups, ← List.filter_append, hbefore, filter_nonSeparators]

/-! ## Corpora -/

/-- **A corpus keeps the lines of its file.** -/
theorem keepsLines_of_ofText {text : String} {corpus : Corpus} (h : ofText text = .ok corpus) :
    KeepsLines (Text.lines text.toList) corpus.entries := by
  have hentries := map_toList_entries h
  have hgroups : corpus.entries.map (fun e => textLines e.toList) =
      textGroups (sections (Text.lines text.toList)) := by
    rw [← map_textLines_keptEntries, ← hentries, List.map_map]
    rfl
  have hlines : (corpus.entries.flatMap fun e => entryLines e.toList).filter
      (fun l => !Text.isAllBlank l) = (Text.lines text.toList).filter isTextLine := by
    rw [← flatMap_textLines_keptEntries, ← hentries, List.filter_flatMap, List.flatMap_map]
    rfl
  refine ⟨fun e he => ?_, fun e he l hl => ?_, hlines, fun a l b k c hfile hl hk hb => ?_⟩
  case refine_1 =>
    have hmem : e.toList ∈ keptEntries text.toList := hentries ▸ List.mem_map_of_mem he
    simpa using (List.mem_filter.1 hmem).2
  case refine_2 =>
    -- A separator is not blank, so it would be one of the lines of text.
    by_contra hsep
    rw [Bool.not_eq_false] at hsep
    have hmem : l ∈ (Text.lines text.toList).filter isTextLine := by
      rw [← hlines, List.mem_filter]
      refine ⟨List.mem_flatMap.2 ⟨e, he, hl⟩, ?_⟩
      rw [isAllBlank_of_isSeparator hsep, Bool.not_false]
    have htext := (isTextLine_iff.1 (List.mem_filter.1 hmem).2).2
    exact Bool.false_ne_true (htext.symm.trans hsep)
  case refine_3 =>
    rw [placedLines, hgroups, hfile, List.countP_eq_length_filter]
    by_cases hone : (∃ s ∈ a ++ l :: (b ++ k :: c), isSeparator s = true) ∧
        ∀ m ∈ b, isSeparator m = false
    · obtain ⟨gs, us, vs, hs, hsections, has⟩ := exists_section_around hl hk hb hone.1 hone.2
      rw [hsections]
      obtain ⟨i, hli, hki⟩ := placed_of_group (n := 0) has l k vs hs
      exact ⟨i, i, hli, hki, iff_of_true rfl hone⟩
    · obtain ⟨gs, hs, hsections, hgs, hhs⟩ := exists_sections_cut (a := a) (c := c) hl hk hb
        fun hany => by
          by_contra hnone
          exact hone ⟨hany, by simpa using hnone⟩
      rw [hsections, textGroups_append]
      obtain ⟨i, j, hli, hkj, hij⟩ := placed_of_cut (n := 0) hgs hhs
      exact ⟨i, j, hli, hkj, iff_of_false hij hone⟩

/-- Nothing is kept of a file if and only if it has no line of text. -/
theorem keptEntries_eq_nil_iff {text : List Char} :
    keptEntries text = [] ↔ ∀ l ∈ Text.lines text, isTextLine l = false := by
  have hnone : (∀ l ∈ Text.lines text, isTextLine l = false) ↔
      (keptEntries text).flatMap textLines = [] := by
    rw [flatMap_textLines_keptEntries, List.filter_eq_nil_iff]
    simp
  rw [hnone, List.flatMap_eq_nil_iff]
  constructor
  · intro h e he
    rw [h] at he
    exact absurd he List.not_mem_nil
  · intro h
    refine List.eq_nil_iff_forall_not_mem.2 fun e he => ?_
    have hblank := isEmpty_textLines e
    rw [h e he, List.isEmpty_nil] at hblank
    simpa [← hblank] using (List.mem_filter.1 he).2

/-- **The lines of a corpus file.** There is no corpus if and only if each line of the file is blank
or a separator. Otherwise there is one, and it keeps the lines of the file. -/
theorem ofText_keeps_lines (text : String) :
    (ofText text = .error .empty ↔
        ∀ l ∈ Text.lines text.toList, Text.isAllBlank l = true ∨ isSeparator l = true) ∧
      ((∃ l ∈ Text.lines text.toList, Text.isAllBlank l = false ∧ isSeparator l = false) →
        ∃ corpus, ofText text = .ok corpus ∧
          KeepsLines (Text.lines text.toList) corpus.entries) := by
  constructor
  · rw [ofText_eq_error_iff, keptEntries_eq_nil_iff]
    simp only [isTextLine, Bool.and_eq_false_iff, Bool.not_eq_false']
  · rintro ⟨l, hl, htext⟩
    have hkept : keptEntries text.toList ≠ [] := fun h =>
      Bool.false_ne_true ((keptEntries_eq_nil_iff.1 h l hl).symm.trans (isTextLine_iff.2 htext))
    have hpos : 0 < ((keptEntries text.toList).map String.ofList).length := by
      rw [List.length_map]
      exact List.length_pos_of_ne_nil hkept
    have hcorpus : ofText text = .ok ⟨_, hpos⟩ := ofText_eq_ok_iff.2 rfl
    exact ⟨_, hcorpus, keepsLines_of_ofText hcorpus⟩

/-- Blank lines in front and within, separators at both ends, two of them side by side, one with
blanks and a carriage return: two entries come of it, and the first has two lines of text. -/
theorem ofText_keeps_lines_of_two_entries :
    ∃ text : String, text = "\n%\n \n a\n\nb \n%\n% \r\nc\r\n%" ∧
      (∃ l ∈ Text.lines text.toList, Text.isAllBlank l = false ∧ isSeparator l = false) ∧
      ∃ corpus, ofText text = .ok corpus ∧ corpus.entries = [" \n a\n\nb ", "c"] ∧
        KeepsLines (Text.lines text.toList) corpus.entries := by
  have hline : ∃ l ∈ Text.lines "\n%\n \n a\n\nb \n%\n% \r\nc\r\n%".toList,
      Text.isAllBlank l = false ∧ isSeparator l = false := ⟨['c'], by decide, by decide⟩
  obtain ⟨corpus, hcorpus, hkeeps⟩ := (ofText_keeps_lines _).2 hline
  refine ⟨_, rfl, hline, corpus, hcorpus, ?_, hkeeps⟩
  rw [ofText_eq_ok_iff.1 hcorpus]
  decide

end Corpus
end Autograder

/-
# The sections of a corpus file

The lines of a corpus file fall into sections: what stands between separators is one section, and
without separators each line is one (`sections`). A section makes an entry: a line feed joins its
lines, except that empty lines in front leave no trace (`joinLines`). So the entries, blank ones
included, are those of the sections (`rawEntries_eq`), and an entry falls at its line feeds into the
lines it was made of (`textLines_joinLines`).
-/

import Autograder.Corpus.File
import Autograder.Proofs.Text.Lines

namespace Autograder
namespace Corpus

/-! ## Entries and their lines -/

/-- The entry that some lines make. -/
def joinLines (ls : List (List Char)) : List Char := ls.foldl addLine []

/-- The lines of an entry: the parts between its line feeds. -/
def entryLines (entry : List Char) : List (List Char) := entry.splitOn '\n'

/-- The lines of an entry that are not blank. -/
def textLines (entry : List Char) : List (List Char) :=
  (entryLines entry).filter fun l => !Text.isAllBlank l

theorem foldl_addLine {entry : List Char} (h : entry ≠ []) (ls : List (List Char)) :
    ls.foldl addLine entry = ['\n'].intercalate (entry :: ls) := by
  induction ls generalizing entry with
  | nil => simp
  | cons l ls ih =>
    have hstep : addLine entry l = entry ++ '\n' :: l := by simp [addLine, h]
    rw [List.foldl_cons, hstep, ih (by simp)]
    cases ls with
    | nil => simp
    | cons k ls => simp [List.intercalate_cons_cons]

/-- **Lines are joined by line feeds**, from the first line on that is not empty. -/
theorem joinLines_eq (ls : List (List Char)) :
    joinLines ls = ['\n'].intercalate (ls.dropWhile List.isEmpty) := by
  induction ls with
  | nil => rfl
  | cons l ls ih =>
    cases l with
    | nil => exact ih
    | cons c l => exact foldl_addLine (List.cons_ne_nil c l) ls

theorem joinLines_singleton (l : List Char) : joinLines [l] = l := rfl

/-- An entry that does not start with a line feed is made of its lines. -/
theorem joinLines_entryLines {entry : List Char} (h : entry.head? ≠ some '\n') :
    joinLines (entryLines entry) = entry := by
  cases entry with
  | nil => rfl
  | cons c r =>
    have hc : c ≠ '\n' := by simpa using h
    have hsplit : (entryLines (c :: r)).dropWhile List.isEmpty = entryLines (c :: r) := by
      unfold entryLines
      rw [List.splitOn_cons_eq_if_modifyHead, if_neg (by simpa using hc)]
      cases hr : r.splitOn '\n' with
      | nil => rfl
      | cons l ls => rfl
    rw [joinLines_eq, hsplit]
    exact List.intercalate_splitOn '\n'

theorem filter_dropWhile_isEmpty (ls : List (List Char)) :
    (ls.dropWhile List.isEmpty).filter (fun l => !Text.isAllBlank l) =
      ls.filter fun l => !Text.isAllBlank l := by
  induction ls with
  | nil => rfl
  | cons l ls ih =>
    cases l with
    | nil => exact ih
    | cons c l => rfl

/-- An entry that is made of lines falls into these lines, empty ones in front apart. -/
theorem textLines_joinLines {ls : List (List Char)} (h : ∀ l ∈ ls, '\n' ∉ l) :
    textLines (joinLines ls) = ls.filter fun l => !Text.isAllBlank l := by
  rw [textLines, joinLines_eq, ← filter_dropWhile_isEmpty ls]
  by_cases hnil : ls.dropWhile List.isEmpty = []
  · rw [hnil]
    rfl
  · rw [entryLines, List.splitOn_intercalate '\n' ?_ hnil]
    exact fun l hl => h l ((List.dropWhile_suffix _).subset hl)

/-- An entry is blank if and only if all its lines are. -/
theorem all_isAllBlank_entryLines (entry : List Char) :
    (entryLines entry).all Text.isAllBlank = Text.isAllBlank entry := by
  unfold entryLines
  induction entry with
  | nil => rfl
  | cons c r ih =>
    rw [List.splitOn_cons_eq_if_modifyHead]
    split_ifs with hc
    · rw [List.all_cons, ih, beq_iff_eq.1 hc]
      rfl
    · cases hr : r.splitOn '\n' with
      | nil => exact absurd hr (List.splitOn_ne_nil '\n' r)
      | cons l ls =>
        rw [hr] at ih
        simp only [Text.isAllBlank, List.modifyHead_cons, List.all_cons, Bool.and_assoc] at ih ⊢
        rw [ih]

theorem isEmpty_textLines (entry : List Char) :
    (textLines entry).isEmpty = Text.isAllBlank entry := by
  rw [textLines, ← all_isAllBlank_entryLines, Bool.eq_iff_iff, List.isEmpty_iff,
    List.filter_eq_nil_iff, List.all_eq_true]
  simp

/-! ## Sections -/

/-- The sections of the lines of a corpus file. -/
def sections (ls : List (List Char)) : List (List (List Char)) :=
  if ls.any isSeparator then ls.splitOnP isSeparator else ls.map fun l => [l]

theorem entriesFrom_eq (entry : List Char) (ls : List (List Char)) :
    ∃ g gs, ls.splitOnP isSeparator = g :: gs ∧
      entriesFrom entry ls = g.foldl addLine entry :: gs.map joinLines := by
  induction ls generalizing entry with
  | nil => exact ⟨[], [], rfl, rfl⟩
  | cons l ls ih =>
    rw [List.splitOnP_cons_eq_if_modifyHead, entriesFrom]
    split_ifs with hl
    · obtain ⟨g, gs, hsplit, hentries⟩ := ih []
      exact ⟨[], g :: gs, by rw [hsplit], by rw [hentries]; rfl⟩
    · obtain ⟨g, gs, hsplit, hentries⟩ := ih (addLine entry l)
      exact ⟨l :: g, gs, by rw [hsplit]; rfl, by rw [hentries]; rfl⟩

/-- **Each section makes an entry.** -/
theorem rawEntries_eq (text : List Char) :
    rawEntries text = (sections (Text.lines text)).map joinLines := by
  unfold rawEntries sections
  dsimp only
  split_ifs with hsep
  · obtain ⟨g, gs, hsplit, hentries⟩ := entriesFrom_eq [] (Text.lines text)
    rw [hsplit, hentries]
    rfl
  · simp [joinLines_singleton, Function.comp_def]

theorem flatten_splitOnP {α : Type} (p : α → Bool) (ls : List α) :
    (ls.splitOnP p).flatten = ls.filter fun l => !p l := by
  induction ls with
  | nil => rfl
  | cons l ls ih =>
    rw [List.splitOnP_cons_eq_if_modifyHead]
    split_ifs with hl
    · simpa [hl] using ih
    · cases hsplit : ls.splitOnP p with
      | nil => exact absurd hsplit (List.splitOnP_ne_nil p ls)
      | cons g gs =>
        rw [hsplit, List.flatten_cons] at ih
        simp [hl, ih]

/-- **The sections have all lines but the separators**, in their order. -/
theorem flatten_sections (ls : List (List Char)) :
    (sections ls).flatten = ls.filter fun l => !isSeparator l := by
  unfold sections
  split_ifs with hsep
  · exact flatten_splitOnP isSeparator ls
  · have hnone : ∀ l ∈ ls, isSeparator l = false := by simpa using hsep
    rw [← List.flatMap_def, List.flatMap_singleton', eq_comm, List.filter_eq_self]
    intro l hl
    rw [hnone l hl, Bool.not_false]

/-- There is no line feed in the lines of a section. -/
theorem newline_not_mem_of_mem_sections {text : List Char} {g : List (List Char)}
    (hg : g ∈ sections (Text.lines text)) : ∀ l ∈ g, '\n' ∉ l := by
  intro l hl
  have hmem : l ∈ (sections (Text.lines text)).flatten := List.mem_flatten.2 ⟨g, hg, hl⟩
  rw [flatten_sections] at hmem
  exact Text.not_mem_of_mem_lines (List.mem_of_mem_filter hmem)

theorem splitOnP_append_of_forall {α : Type} {p : α → Bool} {x : List α}
    (hx : ∀ d ∈ x, p d = false) (c : List α) :
    (x ++ c).splitOnP p = (c.splitOnP p).modifyHead (x ++ ·) := by
  induction x with
  | nil =>
    rw [List.nil_append]
    cases c.splitOnP p <;> rfl
  | cons d x ih =>
    have hd : p d = false := hx d (List.mem_cons_self ..)
    rw [List.cons_append, List.splitOnP_cons_eq_if_modifyHead, hd,
      ih fun e he => hx e (List.mem_cons_of_mem _ he)]
    cases c.splitOnP p <;> rfl

/-- Lines without a separator among them are in one section, and the lines before them are in this
section and in the ones before it. -/
theorem splitOnP_around {α : Type} {p : α → Bool} {x : List α} (hx : ∀ d ∈ x, p d = false)
    (a c : List α) :
    ∃ gs u v hs, (a ++ (x ++ c)).splitOnP p = gs ++ (u ++ (x ++ v)) :: hs ∧
      gs.flatten ++ u = a.filter fun d => !p d := by
  induction a with
  | nil =>
    obtain ⟨v, hs, hsplit⟩ := List.exists_cons_of_ne_nil (List.splitOnP_ne_nil p c)
    exact ⟨[], [], v, hs, by rw [List.nil_append, splitOnP_append_of_forall hx, hsplit]; rfl, rfl⟩
  | cons d a ih =>
    obtain ⟨gs, u, v, hs, hsplit, hflatten⟩ := ih
    rw [List.cons_append, List.splitOnP_cons_eq_if_modifyHead, hsplit]
    cases hd : p d with
    | true => exact ⟨[] :: gs, u, v, hs, rfl, by simp [hd, hflatten]⟩
    | false =>
      cases gs with
      | nil => exact ⟨[], d :: u, v, hs, rfl, by simpa [hd] using hflatten⟩
      | cons g gs => exact ⟨(d :: g) :: gs, u, v, hs, rfl, by simpa [hd] using hflatten⟩

/-! ## Corpora -/

/-- **A corpus is its entries without the blank ones.** -/
theorem ofEntries?_eq_some_iff {es : List String} {corpus : Corpus} :
    ofEntries? es = some corpus ↔
      corpus.entries = es.filter fun e => !Text.isAllBlank e.toList := by
  obtain ⟨entries, hne⟩ := corpus
  unfold ofEntries?
  dsimp only
  split_ifs with hkept
  · rw [Option.some.injEq, Corpus.mk.injEq]
    exact eq_comm
  · constructor
    · intro h
      cases h
    · rintro rfl
      exact absurd hne hkept

theorem ofEntries?_eq_none_iff {es : List String} :
    ofEntries? es = none ↔ (es.filter fun e => !Text.isAllBlank e.toList) = [] := by
  unfold ofEntries?
  dsimp only
  split_ifs with hkept
  · simpa using List.ne_nil_of_length_pos hkept
  · simpa using List.eq_nil_of_length_eq_zero (Nat.eq_zero_of_not_pos hkept)

theorem ofEntries_eq_ok_iff {es : List String} {corpus : Corpus} :
    ofEntries es = .ok corpus ↔
      corpus.entries = es.filter fun e => !Text.isAllBlank e.toList := by
  rw [← ofEntries?_eq_some_iff, ofEntries]
  cases ofEntries? es <;> simp

/-- The entries of a corpus file that are not blank. -/
def keptEntries (text : List Char) : List (List Char) :=
  (rawEntries text).filter fun e => !Text.isAllBlank e

theorem filter_map_ofList (es : List (List Char)) :
    (es.map String.ofList).filter (fun e => !Text.isAllBlank e.toList) =
      (es.filter fun e => !Text.isAllBlank e).map String.ofList := by
  rw [List.filter_map]
  simp [Function.comp_def]

/-- **The corpus of a file is what is kept of its entries.** -/
theorem ofText_eq_ok_iff {text : String} {corpus : Corpus} :
    ofText text = .ok corpus ↔ corpus.entries = (keptEntries text.toList).map String.ofList := by
  rw [keptEntries, ← filter_map_ofList, ← ofEntries?_eq_some_iff, ← read?, ofText]
  cases read? text <;> simp

theorem map_toList_entries {text : String} {corpus : Corpus} (h : ofText text = .ok corpus) :
    corpus.entries.map String.toList = keptEntries text.toList := by
  rw [ofText_eq_ok_iff.1 h, List.map_map]
  simp [Function.comp_def]

/-- There is no corpus if and only if nothing is kept. -/
theorem ofText_eq_error_iff {text : String} :
    ofText text = .error .empty ↔ keptEntries text.toList = [] := by
  rw [keptEntries, ← List.map_eq_nil_iff (f := String.ofList), ← filter_map_ofList,
    ← ofEntries?_eq_none_iff, ← read?, ofText]
  cases read? text <;> simp

end Corpus
end Autograder

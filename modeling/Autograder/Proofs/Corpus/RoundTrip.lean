/-
# A corpus file that is read back

A corpus file is written by putting a separator after each entry (`fileText`). Written like this,
the lines of the file are those of the entries and the separators (`lines_fileText`), each section is
an entry, and the one that is left after the last separator is empty. So the entries come back
character by character if each can be an entry at all: it is not blank, does not start with a line
feed, and has no line that would separate (`IsEntry`). A file never gives other entries
(`isEntry_of_ofText`), so for entries without carriage returns nothing else comes back
(`ofText_fileText_iff`).
-/

import Autograder.Proofs.Corpus.Lines
import Mathlib.Tactic.MkIffOfInductiveProp

namespace Autograder
namespace Corpus

/-- A corpus file in which a separator follows each entry. -/
def fileText (entries : List String) : String :=
  String.ofList (entries.flatMap fun e => e.toList ++ ['\n', '%', '\n'])

/-- A text that can be an entry of a corpus file. -/
@[mk_iff]
structure IsEntry (e : String) : Prop where
  notBlank : Text.isAllBlank e.toList = false
  start : e.toList.head? ≠ some '\n'
  noSeparator : ∀ l ∈ entryLines e.toList, isSeparator l = false

instance (e : String) : Decidable (IsEntry e) := decidable_of_iff' _ (isEntry_iff e)

/-! ## Writing -/

theorem mem_of_mem_entryLines {e l : List Char} (hl : l ∈ entryLines e) {c : Char} (hc : c ∈ l) :
    c ∈ e ∧ c ≠ '\n' := by
  have hmem : c ∈ (entryLines e).flatten := List.mem_flatten.2 ⟨l, hl, hc⟩
  rw [entryLines, List.splitOn_eq_splitOnP, flatten_splitOnP] at hmem
  simpa using hmem

/-- The lines of an entry, each with a line feed, are the entry with a line feed. -/
theorem terminated_entryLines (e : List Char) :
    Text.terminated (entryLines e) = e ++ ['\n'] := by
  unfold entryLines
  induction e with
  | nil => rfl
  | cons c e ih =>
    rw [List.splitOn_cons_eq_if_modifyHead]
    split_ifs with hc
    · rw [Text.terminated_cons, ih, beq_iff_eq.1 hc]
      rfl
    · cases hsplit : e.splitOn '\n' with
      | nil => exact absurd hsplit (List.splitOn_ne_nil '\n' e)
      | cons l ls =>
        rw [hsplit, Text.terminated_cons] at ih
        rw [List.modifyHead_cons, Text.terminated_cons, List.cons_append, ih, List.cons_append]

/-- A corpus file is written line by line. -/
theorem toList_fileText (entries : List String) :
    (fileText entries).toList =
      Text.terminated (entries.flatMap fun e => entryLines e.toList ++ [['%']]) := by
  have hentry (e : String) :
      Text.terminated (entryLines e.toList ++ [['%']]) = e.toList ++ ['\n', '%', '\n'] := by
    rw [Text.terminated, List.flatMap_append, ← Text.terminated, terminated_entryLines,
      List.append_assoc]
    rfl
  rw [fileText, String.toList_ofList, Text.terminated, List.flatMap_assoc]
  exact congrArg (List.flatMap · entries) (funext fun e => (hentry e).symm)

/-- **The lines of a written file** are those of its entries, with a separator after each entry. -/
theorem lines_fileText {entries : List String} (h : ∀ e ∈ entries, '\r' ∉ e.toList) :
    Text.lines (fileText entries).toList =
      entries.flatMap fun e => entryLines e.toList ++ [['%']] := by
  have hchar : ∀ l ∈ entries.flatMap (fun e => entryLines e.toList ++ [['%']]),
      '\n' ∉ l ∧ '\r' ∉ l := by
    intro l hl
    obtain ⟨e, he, hl⟩ := List.mem_flatMap.1 hl
    rcases List.mem_append.1 hl with hl | hl
    · exact ⟨fun hc => (mem_of_mem_entryLines hl hc).2 rfl,
        fun hc => h e he (mem_of_mem_entryLines hl hc).1⟩
    · rw [List.mem_singleton.1 hl]
      decide
  rw [toList_fileText, Text.lines_terminated fun l hl => (hchar l hl).1]
  refine (List.map_congr_left fun l hl => ?_).trans (List.map_id _)
  exact Text.withoutReturn_of_ne fun hlast => (hchar l hl).2 (List.mem_of_getLast? hlast)

/-! ## Reading -/

/-- **Each entry is a section** of a written file, and the last section is empty. -/
theorem splitOnP_fileText {entries : List String}
    (h : ∀ e ∈ entries, ∀ l ∈ entryLines e.toList, isSeparator l = false) :
    (entries.flatMap fun e => entryLines e.toList ++ [['%']]).splitOnP isSeparator =
      (entries.map fun e => entryLines e.toList) ++ [[]] := by
  induction entries with
  | nil => rfl
  | cons e entries ih =>
    rw [List.flatMap_cons, List.append_assoc, List.singleton_append,
      List.splitOnP_append_cons_of_forall_mem (h e (List.mem_cons_self ..)) _ rfl,
      ih fun e' he => h e' (List.mem_cons_of_mem _ he), List.map_cons, List.cons_append]

/-- **Entries are kept** when they are written to a file. -/
theorem keptEntries_fileText {entries : List String} (hne : entries ≠ [])
    (hreturn : ∀ e ∈ entries, '\r' ∉ e.toList) (h : ∀ e ∈ entries, IsEntry e) :
    keptEntries (fileText entries).toList = entries.map String.toList := by
  have hany : (entries.flatMap fun e => entryLines e.toList ++ [['%']]).any isSeparator = true := by
    obtain ⟨e, he⟩ := List.exists_mem_of_ne_nil entries hne
    exact List.any_eq_true.2 ⟨['%'], List.mem_flatMap.2 ⟨e, he, by simp⟩, rfl⟩
  have hjoin : entries.map (joinLines ∘ fun e => entryLines e.toList) = entries.map String.toList :=
    List.map_congr_left fun e he => joinLines_entryLines (h e he).start
  have hkept : ∀ e ∈ entries.map String.toList, (!Text.isAllBlank e) = true := by
    intro s hs
    obtain ⟨e, he, rfl⟩ := List.mem_map.1 hs
    rw [(h e he).notBlank, Bool.not_false]
  rw [keptEntries, rawEntries_eq, lines_fileText hreturn, sections, if_pos hany,
    splitOnP_fileText fun e he => (h e he).noSeparator, List.map_append, List.map_map, hjoin,
    List.filter_append, List.filter_eq_self.2 hkept]
  exact List.append_nil _

/-- An entry that lines make does not start with a line feed. -/
theorem head?_joinLines {ls : List (List Char)} (h : ∀ l ∈ ls, '\n' ∉ l) :
    (joinLines ls).head? ≠ some '\n' := by
  induction ls with
  | nil => simp [joinLines]
  | cons l ls ih =>
    cases l with
    | nil => exact ih fun l hl => h l (List.mem_cons_of_mem _ hl)
    | cons c l =>
      have hc : c ≠ '\n' := by
        rintro rfl
        exact h _ (List.mem_cons_self ..) (List.mem_cons_self ..)
      have hjoin : joinLines ((c :: l) :: ls) = ['\n'].intercalate ((c :: l) :: ls) :=
        foldl_addLine (List.cons_ne_nil c l) ls
      rw [hjoin]
      cases ls <;> simpa [List.intercalate_cons_cons] using hc

/-- **Whatever a file gives can be an entry.** -/
theorem isEntry_of_ofText {text : String} {corpus : Corpus} (h : ofText text = .ok corpus) :
    ∀ e ∈ corpus.entries, IsEntry e := by
  intro e he
  have hkeeps := keepsLines_of_ofText h
  refine ⟨hkeeps.notBlank e he, ?_, hkeeps.noSeparator e he⟩
  have hmem : e.toList ∈ keptEntries text.toList :=
    map_toList_entries h ▸ List.mem_map_of_mem he
  rw [keptEntries, rawEntries_eq] at hmem
  obtain ⟨g, hg, hjoin⟩ := List.mem_map.1 (List.mem_of_mem_filter hmem)
  rw [← hjoin]
  exact head?_joinLines (newline_not_mem_of_mem_sections hg)

/-- **Entries come back from their file**, in order and character by character, if and only if there
are any and each can be an entry. -/
theorem ofText_fileText_iff {entries : List String} (hreturn : ∀ e ∈ entries, '\r' ∉ e.toList) :
    (∃ corpus, ofText (fileText entries) = .ok corpus ∧ corpus.entries = entries) ↔
      entries ≠ [] ∧ ∀ e ∈ entries, IsEntry e := by
  constructor
  · rintro ⟨corpus, hcorpus, rfl⟩
    exact ⟨List.ne_nil_of_length_pos corpus.nonempty, isEntry_of_ofText hcorpus⟩
  · rintro ⟨hne, h⟩
    refine ⟨⟨entries, List.length_pos_of_ne_nil hne⟩, ofText_eq_ok_iff.2 ?_, rfl⟩
    rw [keptEntries_fileText hne hreturn h, List.map_map]
    simp [Function.comp_def]

/-- Blanks at both ends, blank lines within and at the end, and an entry that is there twice come
back; a line feed in front does not. -/
theorem ofText_fileText_of_blanks :
    (∀ e ∈ ["\t a\n\n %% \n\n", "b: \u00a0", "b: \u00a0"], '\r' ∉ e.toList) ∧
      (∃ corpus, ofText (fileText ["\t a\n\n %% \n\n", "b: \u00a0", "b: \u00a0"]) = .ok corpus ∧
        corpus.entries = ["\t a\n\n %% \n\n", "b: \u00a0", "b: \u00a0"]) ∧
      ¬ ∃ corpus, ofText (fileText ["\na"]) = .ok corpus ∧ corpus.entries = ["\na"] := by
  have hreturn : ∀ e ∈ ["\t a\n\n %% \n\n", "b: \u00a0", "b: \u00a0"], '\r' ∉ e.toList := by
    decide
  refine ⟨hreturn, (ofText_fileText_iff hreturn).2 ⟨List.cons_ne_nil _ _, by decide⟩, fun h => ?_⟩
  exact absurd ((ofText_fileText_iff (by decide)).1 h).2 (by decide)

end Corpus
end Autograder

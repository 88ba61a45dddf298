/-
# Line ends with and without a carriage return

A text falls into the same lines whether they end with a line feed or with a carriage return and a
line feed (`lines_withReturns`). Workload files, outputs and corpus files are all read from their
lines, so each of them is read alike with either end, errors included (`crlf_reads_alike`).
-/

import Autograder.Buckets.Output
import Autograder.Corpus.File
import Autograder.Proofs.Text.Lines

namespace Autograder
namespace Text

/-- A text with a carriage return before each line feed. -/
def withReturns (s : List Char) : List Char :=
  s.flatMap fun c => if c = '\n' then ['\r', '\n'] else [c]

theorem withReturns_of_not_mem {l : List Char} (hl : '\n' ∉ l) : withReturns l = l := by
  have hstep : ∀ c ∈ l, (if c = '\n' then ['\r', '\n'] else [c]) = [c] := by
    intro c hc
    refine if_neg ?_
    rintro rfl
    exact hl hc
  rw [withReturns, List.flatMap_congr hstep, List.flatMap_singleton']

theorem withReturns_append_newline {l : List Char} (hl : '\n' ∉ l) (r : List Char) :
    withReturns (l ++ '\n' :: r) = l ++ '\r' :: '\n' :: withReturns r := by
  have hline := withReturns_of_not_mem hl
  unfold withReturns at hline ⊢
  rw [List.flatMap_append, List.flatMap_cons, hline]
  rfl

/-- **The lines of a text without carriage returns** stay its lines when each is ended with one. -/
theorem HasLines.withReturns {s : List Char} {ls : List (List Char)} (h : HasLines s ls)
    (hs : '\r' ∉ s) : HasLines (withReturns s) ls := by
  induction h with
  | nil => exact .nil
  | last hne hl =>
    rw [withReturns_of_not_mem hl]
    exact .last hne hl
  | newline hl _ _ ih =>
    rw [withReturns_append_newline hl]
    exact .returnNewline hl (ih fun hr => hs (by simp [hr]))
  | returnNewline => simp at hs

theorem lines_withReturns {s : List Char} (hs : '\r' ∉ s) : lines (withReturns s) = lines s :=
  ((hasLines_lines s).withReturns hs).lines_eq

/-- A string with a carriage return before each line feed. -/
def crlf (text : String) : String := String.ofList (withReturns text.toList)

theorem lines_crlf {text : String} (h : '\r' ∉ text.toList) :
    lines (crlf text).toList = lines text.toList := by
  rw [crlf, String.toList_ofList, lines_withReturns h]

/-- **Either end of line will do.** A text without carriage returns and the same text with one
before each line feed are read alike, as a workload file, as an output and as a corpus file. What is
read is the same, or else the error is, with the number and the text of its line. -/
theorem crlf_reads_alike {text : String} (h : '\r' ∉ text.toList) :
    (∀ n, Workload.read n (crlf text) = Workload.read n text) ∧
      (∀ n, BucketSet.readOutput n (crlf text) = BucketSet.readOutput n text) ∧
      Corpus.ofText (crlf text) = Corpus.ofText text := by
  have hlines := lines_crlf h
  have hnumbered : numberedLines (crlf text).toList = numberedLines text.toList := by
    rw [numberedLines, hlines, numberedLines]
  have hentries : Corpus.rawEntries (crlf text).toList = Corpus.rawEntries text.toList := by
    rw [Corpus.rawEntries, hlines, Corpus.rawEntries]
  refine ⟨fun n => ?_, fun n => ?_, ?_⟩
  · rw [Workload.read, hnumbered, Workload.read]
  · rw [BucketSet.readOutput, hnumbered, BucketSet.readOutput]
  · rw [Corpus.ofText, Corpus.read?, hentries, Corpus.ofText, Corpus.read?]

/-- An empty line, a blank one, a separator and a last line without an end. A carriage return that
is there before would not be alike: one of two is left. -/
theorem crlf_reads_alike_to_the_end :
    '\r' ∉ "1 2 a\n\n2 1\n \n%\n1: b".toList ∧
      crlf "1 2 a\n\n2 1\n \n%\n1: b" = "1 2 a\r\n\r\n2 1\r\n \r\n%\r\n1: b" ∧
      Workload.read 2 "1 2 a\r\n\r\n2 1\r\n \r\n%\r\n1: b" =
        .error ⟨5, "%", .missingDestination⟩ ∧
      BucketSet.readOutput 2 "1 2 a\r\n\r\n2 1\r\n \r\n%\r\n1: b" =
        .error ⟨1, "1 2 a", .missingColon⟩ ∧
      (∃ corpus, Corpus.ofText "1 2 a\r\n\r\n2 1\r\n \r\n%\r\n1: b" = .ok corpus ∧
        corpus.entries = ["1 2 a\n\n2 1\n ", "1: b"]) ∧
      BucketSet.readOutput 1 (crlf "a\r\n") ≠ BucketSet.readOutput 1 "a\r\n" := by
  have hreturn : '\r' ∉ "1 2 a\n\n2 1\n \n%\n1: b".toList := by decide
  have hcrlf : crlf "1 2 a\n\n2 1\n \n%\n1: b" = "1 2 a\r\n\r\n2 1\r\n \r\n%\r\n1: b" := by decide
  obtain ⟨hworkload, houtput, hcorpus⟩ := crlf_reads_alike hreturn
  rw [hcrlf] at hworkload houtput hcorpus
  refine ⟨hreturn, hcrlf, (hworkload 2).trans rfl, (houtput 2).trans rfl, ?_, by decide⟩
  exact ⟨_, hcorpus.trans rfl, rfl⟩

end Text
end Autograder

/-
# An exchange on a random workload

A random workload fits its file, so an exchange that can write the file also reads the workload back
and runs the program (`runs_of_generated`). Then nothing in the verdict speaks of a workload that
could not be had: what a run is judged by begins with other words (`diagnostics_judgeRun`). And a
program that echoes the messages, in any order, delivers the workload (`readOutput_of_echoes`), so
only the busy marker is left to choose its score (`score_of_generated`).
-/

import Autograder.Proofs.Files.Change
import Autograder.Proofs.Suite.ExchangeCourse
import Autograder.Proofs.Workload.Drawn
import Autograder.Proofs.Workload.Echo
import Autograder.Random.ChaCha
import Autograder.Subject.Scripted

namespace Autograder

/-! ## Echoes -/

/-- The echoes of messages that fit deliver them one by one. -/
theorem BucketSet.readOutput_map_echo {n : Nat} (hn : n ≤ Text.maxUInt32) {w : Workload}
    (hfits : ∀ m ∈ w, m.Fits n) :
    readOutput n (String.ofList (Text.terminated (w.map Message.echo))) =
      .ok (ofDeliveries n (w.map Message.delivery)) := by
  have hline : ∀ l ∈ w.map Message.line, '\n' ∉ l := by
    simp only [List.mem_map, forall_exists_index, and_imp, forall_apply_eq_imp_iff₂]
    exact fun m hm => Message.newline_not_mem_line (hfits m hm).oneLine
  have hread : List.Forall₂ (fun l m => Workload.readFields n l = .ok m)
      (w.map Message.line) w := by
    rw [List.forall₂_map_left_iff, List.forall₂_same]
    exact fun m hm => Message.readFields_line hn (hfits m hm)
  have hecho : List.Forall₂ (Workload.IsEcho n) (w.map Message.line) (w.map Message.echo) := by
    rw [List.forall₂_map_left_iff, List.forall₂_map_right_iff, List.forall₂_same]
    exact fun m hm => .canonical (Message.readFields_line hn (hfits m hm))
  obtain ⟨hall, hdelivered⟩ := forall₂_readFields_iff.1 (Workload.readFields_of_isEcho hread hecho)
  rw [readOutput_eq_ok_iff, delivered, Workload.outputLines_of_isEcho hread hline hecho,
    ← hdelivered]
  exact ⟨hall, rfl⟩

/-- **The echoes of messages that fit, in any order, deliver the messages.** -/
theorem BucketSet.readOutput_of_echoes {n : Nat} (hn : n ≤ Text.maxUInt32) {w : Workload}
    (hfits : ∀ m ∈ w, m.Fits n) {outs : List (List Char)}
    (houts : outs.Perm (w.map Message.echo)) :
    readOutput n (String.ofList (Text.terminated outs)) = .ok (ofWorkload n w) := by
  -- The messages in the order in which they are echoed.
  obtain ⟨w', rfl, hperm⟩ : ∃ w' : Workload, outs = w'.map Message.echo ∧ w'.Perm w := by
    change Relation.Comp (· = List.map Message.echo ·) List.Perm outs w
    rwa [List.eq_map_comp_perm]
  rw [readOutput_map_echo hn fun m hm => hfits m (hperm.subset hm), ofWorkload_eq_ofDeliveries,
    ofDeliveries_eq_of_perm n (hperm.map Message.delivery)]

namespace Suite

/-! ## Failures about the workload -/

/-- A failure to get the workload ready, or to read it back. -/
def IsWorkloadFailure (d : Diagnostic) : Prop :=
  d.severity = .failure ∧ ("Could not prepare workload: ".toList <+: d.message.toList ∨
    "Bad workload: ".toList <+: d.message.toList)

/-- Every failure about the workload begins with one of two letters. -/
theorem not_isWorkloadFailure_of_head {d : Diagnostic} {c : Char}
    (h : d.message.toList.head? = some c) (hc : c ≠ 'C' ∧ c ≠ 'B') : ¬ IsWorkloadFailure d := by
  rintro ⟨-, ⟨rest, hrest⟩ | ⟨rest, hrest⟩⟩
  · rw [← hrest, List.head?_append] at h
    exact hc.1 (Option.some.inj h).symm
  · rw [← hrest, List.head?_append] at h
    exact hc.2 (Option.some.inj h).symm

theorem not_isWorkloadFailure_of_severity {d : Diagnostic} (h : d.severity ≠ .failure) :
    ¬ IsWorkloadFailure d := fun hd => h hd.1

theorem head?_message (m : Mismatch) :
    m.message.toList.head? = some 'e' ∨ m.message.toList.head? = some 'c' := by
  cases m <;> simp [Mismatch.message]

theorem diagnostics_judgeOutput (s : ExchangeSettings) (expected : BucketSet)
    (said : List Diagnostic) (o : ProcessOutput) :
    ∃ rest, (judgeOutput s expected said o).diagnostics = said ++ rest ∧
      ∀ d ∈ rest, ¬ IsWorkloadFailure d := by
  unfold judgeOutput
  split
  · refine ⟨_, rfl, fun d hd => ?_⟩
    rw [List.mem_singleton.1 hd]
    exact not_isWorkloadFailure_of_head (head?_append rfl _) (by decide)
  · split
    · rename_i mismatch _
      refine ⟨_, rfl, fun d hd => ?_⟩
      rcases List.mem_pair.1 hd with rfl | rfl
      · exact not_isWorkloadFailure_of_head (c := 'S') rfl (by decide)
      · rcases head?_message mismatch with h | h <;>
          exact not_isWorkloadFailure_of_head h (by decide)
    · refine ⟨_, rfl, fun d hd => not_isWorkloadFailure_of_severity ?_⟩
      rcases List.mem_cons.1 hd with rfl | hd
      · simp [Diagnostic.info]
      · split at hd
        · simp [List.mem_singleton.1 hd, Diagnostic.warning]
        · cases hd

/-- **A run is never judged by the workload file.** -/
theorem diagnostics_judgeRun (s : ExchangeSettings) (expected : BucketSet)
    (said : List Diagnostic) (r : RunResult) :
    ∃ rest, (judgeRun s expected said r).diagnostics = said ++ rest ∧
      ∀ d ∈ rest, ¬ IsWorkloadFailure d := by
  unfold judgeRun
  split
  · refine ⟨_, rfl, fun d hd => ?_⟩
    rw [List.mem_singleton.1 hd]
    exact not_isWorkloadFailure_of_head (head?_append rfl _) (by decide)
  · exact diagnostics_judgeOutput s expected said _

/-! ## The exchange -/

variable {σ ρ : Type} {subject : Subject σ} {dice : SeededDice ρ} {s : ExchangeSettings}
  {b : Bench σ}

/-- An exchange that reaches the run says nothing of a workload that could not be had. -/
theorem not_isWorkloadFailure_of_runs {path text : String} {files : Files} {w : Workload}
    {r : RunResult} (h : Runs subject dice s b path text files w r) :
    ∀ d ∈ (runExchange subject dice s b).1.diagnostics, ¬ IsWorkloadFailure d := by
  obtain ⟨note, hnote, hexchange⟩ := exists_runExchange_eq h
  rw [hexchange]
  intro d hd
  obtain ⟨rest, hrest, hjudged⟩ := diagnostics_judgeRun s (BucketSet.ofWorkload s.clients w) _ r
  rw [hrest] at hd
  simp only [List.mem_append, List.mem_singleton] at hd
  rcases hd with ((hd | rfl) | hd) | hd
  · exact not_isWorkloadFailure_of_severity (by simp [severity_of_mem_cleanWarnings hd])
  · exact not_isWorkloadFailure_of_severity (by simp [hnote])
  · exact not_isWorkloadFailure_of_severity (by simp [severity_of_mem_keep hd])
  · exact hjudged d hd

/-- **A random workload that is read back is run, if it can be written.** -/
theorem runs_of_generated {path : String} {seed : UInt64} {corpus : Corpus} {w : Workload}
    {p : Place} (hsource : s.source = .generated path seed corpus)
    (hmade : (making subject s.flags exchangeTarget b).1.isSuccess = true)
    (hpath : (making subject s.flags exchangeTarget b).2.files.writable path = .ok p)
    (hclients : 1 ≤ s.clients)
    (hw : Workload.generate? dice.toDice corpus s.clients s.messages (dice.ofSeed seed) = some w)
    (hread : Workload.read s.clients w.contents = .ok w) :
    ∃ files r, Runs subject dice s b path w.contents files w r := by
  obtain ⟨files, hwrite⟩ : ∃ files,
      (making subject s.flags exchangeTarget b).2.files.writeText path w.contents = .ok files :=
    ⟨_, Files.writeText_eq_ok_iff.2 ⟨p, hpath, rfl⟩⟩
  have hprepares : Prepares dice s (making subject s.flags exchangeTarget b).2.files path files :=
    .generated hsource hw (Workload.write_eq_ok_iff.2 hwrite)
  exact ⟨files, _, hmade, hprepares, hclients, Files.readText_of_writeText hwrite, hread, rfl⟩

/-- Only the marker is left to choose the score of an exchange that succeeds. -/
theorem score_of_succeeds {w : Workload} {o : ProcessOutput}
    (h : Succeeds subject dice s b w o) :
    (ShowsMarker s o → (runExchange subject dice s b).1.score = 4.0) ∧
      (¬ ShowsMarker s o → (runExchange subject dice s b).1.score = 6.0) := by
  obtain ⟨said, hverdict⟩ := runExchange_of_succeeds h
  rw [hverdict]
  refine ⟨fun hmarker => ?_, fun hmarker => ?_⟩
  · rw [isBusy_iff.2 hmarker]
    rfl
  · rw [Bool.eq_false_iff.2 fun hbusy => hmarker (isBusy_iff.1 hbusy)]
    rfl

/-- **Random workloads can always be graded.** Whatever the dice answer, there is a workload of as
many messages as are asked for, between clients and with payloads of the corpus; each message takes
two clients and an entry, so no draw is asked for without an answer. Its file has a line for each
message, and the workload is read back from it. So an exchange on a random workload whose target is
made and whose file can be written never fails on account of the workload, but runs the program; and
a run that ends well and echoes the messages, in any order, has one of the two scores. -/
theorem score_of_generated {n : Nat} (hpos : 1 ≤ n) (hn : n ≤ Text.maxUInt32) (corpus : Corpus)
    (count : Nat) :
    (∀ {ρ : Type} (dice : Dice ρ) (state : ρ),
      ∃ w, Workload.generate? dice corpus n count state = some w ∧
        w.length = count ∧ (∀ m ∈ w, Workload.IsDrawn corpus n m) ∧
        (∃ state' bounds,
          Workload.draw dice.keepingBounds corpus hpos count (state, []) = (w, state', bounds) ∧
          bounds = (List.replicate count [n, n, corpus.entries.length]).flatten ∧
          ∀ bound ∈ bounds, 0 < bound) ∧
        (∃ lines : List (List Char), lines.length = count ∧ (∀ l ∈ lines, '\n' ∉ l) ∧
          w.contents.toList = Text.terminated lines) ∧
        Workload.read n w.contents = .ok w) ∧
      ∀ {σ ρ : Type} (subject : Subject σ) (dice : SeededDice ρ) (s : ExchangeSettings)
        (b : Bench σ) (path : String) (seed : UInt64) (p : Place),
        s.clients = n → s.messages = count → s.source = .generated path seed corpus →
        (making subject s.flags exchangeTarget b).1.isSuccess = true →
        (making subject s.flags exchangeTarget b).2.files.writable path = .ok p →
        (∀ d ∈ (runExchange subject dice s b).1.diagnostics, ¬ IsWorkloadFailure d) ∧
          ∃ w files r,
            Workload.generate? dice.toDice corpus n count (dice.ofSeed seed) = some w ∧
            Runs subject dice s b path w.contents files w r ∧
            ∀ (o : ProcessOutput) (outs : List (List Char)), r = .ok o → o.success = true →
              outs.Perm (w.map Message.echo) → o.stdout = String.ofList (Text.terminated outs) →
              (ShowsMarker s o → (runExchange subject dice s b).1.score = 4.0) ∧
                (¬ ShowsMarker s o → (runExchange subject dice s b).1.score = 6.0) := by
  have hgenerated {ρ : Type} (dice : Dice ρ) (state : ρ) :=
    Workload.generate?_of_pos dice corpus hpos count state
  have hdrawn {ρ : Type} (dice : Dice ρ) (state : ρ) :=
    Workload.isDrawn_of_mem_draw dice corpus hpos count state
  constructor
  · intro ρ dice state
    refine ⟨_, hgenerated dice state, Workload.length_draw dice corpus hpos count state,
      hdrawn dice state, ⟨_, _, Workload.draw_keepingBounds dice corpus hpos count state [], rfl,
        Workload.pos_of_mem_bounds corpus hpos count⟩, ⟨_, ?_, ?_, Workload.toList_contents _⟩,
      Workload.read_contents_of_isDrawn hn (hdrawn dice state)⟩
    · rw [List.length_map, Workload.length_draw]
    · simp only [List.mem_map, forall_exists_index, and_imp, forall_apply_eq_imp_iff₂]
      exact fun m hm => Message.newline_not_mem_line (hdrawn dice state m hm).fits.oneLine
  · rintro σ ρ subject dice s b path seed p rfl rfl hsource hmade hpath
    have hw := hgenerated dice.toDice (dice.ofSeed seed)
    have hfits := fun m hm => (hdrawn dice.toDice (dice.ofSeed seed) m hm).fits
    have hread := Workload.read_contents hn hfits
    obtain ⟨files, r, hruns⟩ := runs_of_generated hsource hmade hpath hpos hw hread
    refine ⟨not_isWorkloadFailure_of_runs hruns, _, files, r, hw, hruns, ?_⟩
    rintro o outs rfl hsuccess houts hstdout
    refine score_of_succeeds ⟨⟨path, _, files, hruns⟩, hsuccess, delivers_iff.2 ?_⟩
    rw [hstdout]
    exact BucketSet.readOutput_of_echoes hn hfits houts

/-- Three messages between three clients, with payloads of two entries; a program that echoes them
from the last to the first. -/
theorem score_of_generated_three :
    let corpus : Corpus := ⟨["a: b\r", "  c\nd "], by decide⟩
    let s : ExchangeSettings :=
      ⟨3, 1, 3, .generated "work.txt" 7 corpus, 1000, false, none, some "busy"⟩
    let b : Bench Script := ⟨.startingAt ["home"],
      ⟨[], [.ok ⟨some 0, "3: c d\n3: c d\n1: a- b\n", "", 0⟩]⟩, []⟩
    1 ≤ 3 ∧ 3 ≤ Text.maxUInt32 ∧ (runExchange Script.subject ChaCha.dice s b).1.score = 6.0 := by
  intro corpus s b
  have hw : Workload.generate? ChaCha.dice.toDice ⟨["a: b\r", "  c\nd "], by decide⟩ 3 3
      (ChaCha.dice.ofSeed 7) = some [⟨2, 1, "a- b"⟩, ⟨2, 3, "c d"⟩, ⟨1, 3, "c d"⟩] := by
    decide +kernel
  obtain ⟨-, w, files, r, hgenerated, hruns, hscore⟩ :=
    (score_of_generated (by decide) (by decide) corpus 3).2 Script.subject ChaCha.dice s b
      "work.txt" 7 ["work.txt", "home"] rfl rfl rfl rfl rfl
  obtain rfl := Option.some.inj (hgenerated.symm.trans hw)
  refine ⟨by decide, by decide, (hscore _ ["3: c d".toList, "3: c d".toList, "1: a- b".toList]
    hruns.ran.symm rfl (by decide) rfl).2 ?_⟩
  rintro ⟨marker, hmarker, hinfix⟩
  cases hmarker
  exact absurd hinfix (by decide)

end Suite
end Autograder

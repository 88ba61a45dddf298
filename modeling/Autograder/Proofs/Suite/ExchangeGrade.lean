/-
# The grade of an exchange

The exchange goes through a build, a workload file, a run and a comparison, and stops at the first
of them that goes wrong. It reaches the run if the target is made and a workload can be read back
from the file (`Runs`), and the run is worth a score if it ended well and delivered to each client
what the workload sends to it (`Succeeds`). The grade is above a fail in these cases and in no
others, and then only the busy marker is left to choose between the two grades
(`grade_runExchange`).
-/

import Autograder.Proofs.Buckets.Agreement
import Autograder.Proofs.Suite.Build
import Autograder.Suite.Exchange

namespace Autograder
namespace Suite

/-! ## The marker -/

theorem startsWith_iff {s needle : List Char} : startsWith s needle = true ↔ needle <+: s := by
  induction needle generalizing s with
  | nil =>
    rw [startsWith]
    exact ⟨fun _ => List.nil_prefix, fun _ => rfl⟩
  | cons d ds ih =>
    cases s with
    | nil =>
      rw [startsWith, List.prefix_nil]
      constructor <;> (intro h; cases h)
    | cons c cs =>
      rw [startsWith, Bool.and_eq_true, beq_iff_eq, ih, List.cons_prefix_cons]
      exact and_congr_left fun _ => eq_comm

/-- **The search finds a text wherever it stands in another.** -/
theorem occursIn_iff {needle s : List Char} : occursIn needle s = true ↔ needle <:+: s := by
  induction s with
  | nil => rw [occursIn, List.isEmpty_iff, List.infix_nil]
  | cons c cs ih => rw [occursIn, Bool.or_eq_true, startsWith_iff, ih, List.infix_cons_iff]

/-- There is a marker for programs that wait by looping, and it is somewhere in the error
output. -/
def ShowsMarker (s : ExchangeSettings) (o : ProcessOutput) : Prop :=
  ∃ marker, s.busyMarker = some marker ∧ marker.toList <:+: o.stderr.toList

theorem isBusy_iff {s : ExchangeSettings} {o : ProcessOutput} :
    isBusy s.busyMarker o = true ↔ ShowsMarker s o := by
  unfold ShowsMarker
  cases s.busyMarker with
  | none =>
    constructor
    · intro h
      cases h
    · rintro ⟨marker, h, -⟩
      cases h
  | some marker =>
    rw [isBusy, saysBusy, occursIn_iff]
    constructor
    · intro h
      exact ⟨marker, rfl, h⟩
    · rintro ⟨_, hmarker, h⟩
      cases hmarker
      exact h

/-! ## The output -/

/-- An output is read, and delivers to each client what a workload sends to it. -/
structure Delivers (s : ExchangeSettings) (w : Workload) (o : ProcessOutput) : Prop where
  read : ∃ actual, BucketSet.readOutput s.clients o.stdout = .ok actual
  perm : ∀ c, 1 ≤ c → c ≤ s.clients → (w.payloadsFor c).Perm (BucketSet.receivedBy o.stdout c)

/-- The line about an output in which all is well. -/
def praise (s : ExchangeSettings) (w : Workload) : Diagnostic :=
  .info ("Looks good :) " ++ toString w.length ++ " messages delivered to " ++
    toString s.clients ++ " clients")

/-- Only an output that delivers the workload has the buckets of the workload. -/
theorem delivers_iff {s : ExchangeSettings} {w : Workload} {o : ProcessOutput} :
    Delivers s w o ↔
      BucketSet.readOutput s.clients o.stdout = .ok (BucketSet.ofWorkload s.clients w) := by
  constructor
  · rintro ⟨⟨actual, hactual⟩, hperm⟩
    obtain ⟨-, rfl⟩ := BucketSet.readOutput_eq_ok_iff.1 hactual
    rw [hactual, BucketSet.ofWorkload_eq_iff.2 hperm]
  · intro h
    exact ⟨⟨_, h⟩, BucketSet.ofWorkload_eq_iff.1 (BucketSet.readOutput_eq_ok_iff.1 h).2⟩

theorem judgeOutput_of_delivers {s : ExchangeSettings} {text : String} {w : Workload}
    {o : ProcessOutput} (hw : Workload.read s.clients text = .ok w) (h : Delivers s w o)
    (said : List Diagnostic) :
    judgeOutput s (BucketSet.ofWorkload s.clients w) said o =
      .judge .exchange true (!isBusy s.busyMarker o) (said ++
        (praise s w :: if isBusy s.busyMarker o then [.warning busyLine] else [])) := by
  have hnone : BucketSet.firstMismatch? (BucketSet.ofWorkload s.clients w)
      (BucketSet.ofWorkload s.clients w) = none := BucketSet.firstMismatch?_eq_none_iff.2 rfl
  rw [judgeOutput, delivers_iff.1 h]
  dsimp only
  rw [hnone]
  dsimp only
  rw [BucketSet.total_ofWorkload hw, praise]

theorem delivers_of_grade_judgeOutput {s : ExchangeSettings} {w : Workload} {o : ProcessOutput}
    {said : List Diagnostic}
    (h : (judgeOutput s (BucketSet.ofWorkload s.clients w) said o).grade ≠ .fail) :
    Delivers s w o := by
  unfold judgeOutput at h
  split at h
  · exact absurd rfl h
  · rename_i actual hactual
    split at h
    · exact absurd rfl h
    · rename_i hnone
      rw [delivers_iff, hactual, BucketSet.firstMismatch?_eq_none_iff.1 hnone]

/-! ## The run -/

theorem judgeRun_of_success {s : ExchangeSettings} {o : ProcessOutput} (h : o.success = true)
    (expected : BucketSet) (said : List Diagnostic) :
    judgeRun s expected said (.ok o) = judgeOutput s expected said o := by
  rw [judgeRun, judgeable_eq_ok_iff.2 ⟨rfl, h⟩]

theorem exists_of_grade_judgeRun {s : ExchangeSettings} {expected : BucketSet}
    {said : List Diagnostic} {r : RunResult} (h : (judgeRun s expected said r).grade ≠ .fail) :
    ∃ o, r = .ok o ∧ o.success = true ∧ (judgeOutput s expected said o).grade ≠ .fail := by
  unfold judgeRun at h
  split at h
  · exact absurd rfl h
  · rename_i o ho
    obtain ⟨rfl, hsuccess⟩ := judgeable_eq_ok_iff.1 ho
    exact ⟨o, rfl, hsuccess, h⟩

/-! ## The workload file -/

/-- What it takes to get the workload file ready: its path, and the files from then on. -/
inductive Prepares {ρ : Type} (dice : SeededDice ρ) (s : ExchangeSettings) (fs : Files) :
    String → Files → Prop
  /-- A file that is there already is left alone. -/
  | existing {path : String} : s.source = .existing path → Prepares dice s fs path fs
  /-- A random workload is drawn and written. -/
  | generated {path : String} {seed : UInt64} {corpus : Corpus} {w : Workload} {files : Files} :
      s.source = .generated path seed corpus →
      Workload.generate? dice.toDice corpus s.clients s.messages (dice.ofSeed seed) = some w →
      Workload.write fs path w = .ok files → Prepares dice s fs path files

/-- **A workload file is prepared if it is there, or if a workload can be drawn and written.** -/
theorem prepare_eq_ok_iff {ρ : Type} {dice : SeededDice ρ} {s : ExchangeSettings}
    {fs files : Files} {path : String} :
    (∃ note, prepare dice s fs = (.ok ⟨path, note⟩, files)) ↔ Prepares dice s fs path files := by
  constructor
  · rintro ⟨note, h⟩
    unfold prepare at h
    split at h
    · rename_i hsource
      cases h
      exact .existing hsource
    · rename_i hsource
      split at h
      · cases h
      · rename_i w hw
        split at h
        · cases h
        · rename_i hwrite
          cases h
          exact .generated hsource hw hwrite
  · intro h
    cases h with
    | existing hsource =>
      rw [prepare, hsource]
      exact ⟨_, rfl⟩
    | generated hsource hw hwrite =>
      rw [prepare, hsource]
      dsimp only
      rw [hw]
      dsimp only
      rw [hwrite]
      exact ⟨_, rfl⟩

/-! ## The exchange -/

variable {σ ρ : Type}

/-- The target is made, the workload file is got ready, the workload is read back from it, and
the program is run on it. -/
structure Runs (subject : Subject σ) (dice : SeededDice ρ) (s : ExchangeSettings) (b : Bench σ)
    (path text : String) (files : Files) (w : Workload) (r : RunResult) : Prop where
  made : (making subject s.flags exchangeTarget b).1.isSuccess = true
  prepared : Prepares dice s (making subject s.flags exchangeTarget b).2.files path files
  clients : 1 ≤ s.clients
  loaded : files.readText path = .ok text
  read : Workload.read s.clients text = .ok w
  ran : ({ (making subject s.flags exchangeTarget b).2 with files := files }.run subject
    exchangeProgram [files.absolute path] s.runLimit).1 = r

/-- The run is reached, ends with exit code 0, and delivers the workload. -/
structure Succeeds (subject : Subject σ) (dice : SeededDice ρ) (s : ExchangeSettings)
    (b : Bench σ) (w : Workload) (o : ProcessOutput) : Prop where
  runs : ∃ path text files, Runs subject dice s b path text files w (.ok o)
  success : o.success = true
  delivers : Delivers s w o

variable {subject : Subject σ} {dice : SeededDice ρ} {s : ExchangeSettings} {b : Bench σ}

theorem runExchange_of_runs {path text : String} {files : Files} {w : Workload} {r : RunResult}
    (h : Runs subject dice s b path text files w r) :
    ∃ said, (runExchange subject dice s b).1 =
      judgeRun s (BucketSet.ofWorkload s.clients w) said r := by
  obtain ⟨note, hprepared⟩ := prepare_eq_ok_iff.2 h.prepared
  have hloaded := Workload.load_eq_ok_iff.2 ⟨h.clients, text, h.loaded, h.read⟩
  unfold runExchange
  dsimp only
  rw [failure?_build_eq_none_iff.2 h.made]
  dsimp only
  rw [build_snd, exchangeBuilt, hprepared]
  dsimp only
  rw [hloaded]
  dsimp only
  rw [exchangeOn, ← h.ran]
  exact ⟨_, rfl⟩

theorem exists_runs_of_grade (h : (runExchange subject dice s b).1.grade ≠ .fail) :
    ∃ path text files w r, Runs subject dice s b path text files w r := by
  unfold runExchange at h
  dsimp only at h
  split at h
  · exact absurd rfl h
  · rename_i hmade
    rw [build_snd] at h
    unfold exchangeBuilt at h
    split at h
    · exact absurd rfl h
    · rename_i prepared files hprepared
      dsimp only at h
      split at h
      · exact absurd rfl h
      · rename_i w hw
        obtain ⟨hclients, text, hloaded, hread⟩ := Workload.load_eq_ok_iff.1 hw
        exact ⟨prepared.path, text, files, w, _, failure?_build_eq_none_iff.1 hmade,
          prepare_eq_ok_iff.1 ⟨prepared.note, hprepared⟩, hclients, hloaded, hread, rfl⟩

/-- **The verdict on an exchange that succeeds.** -/
theorem runExchange_of_succeeds {w : Workload} {o : ProcessOutput}
    (h : Succeeds subject dice s b w o) :
    ∃ said, (runExchange subject dice s b).1 =
      .judge .exchange true (!isBusy s.busyMarker o) (said ++
        (praise s w :: if isBusy s.busyMarker o then [.warning busyLine] else [])) := by
  obtain ⟨path, text, files, hruns⟩ := h.runs
  obtain ⟨said, hverdict⟩ := runExchange_of_runs hruns
  refine ⟨said, ?_⟩
  rw [hverdict, judgeRun_of_success h.success, judgeOutput_of_delivers hruns.read h.delivers]

theorem exists_succeeds_of_grade (h : (runExchange subject dice s b).1.grade ≠ .fail) :
    ∃ w o, Succeeds subject dice s b w o := by
  obtain ⟨path, text, files, w, r, hruns⟩ := exists_runs_of_grade h
  obtain ⟨said, hverdict⟩ := runExchange_of_runs hruns
  rw [hverdict] at h
  obtain ⟨o, rfl, hsuccess, hgrade⟩ := exists_of_grade_judgeRun h
  exact ⟨w, o, ⟨path, text, files, hruns⟩, hsuccess, delivers_of_grade_judgeOutput hgrade⟩

/-- **The grade of an exchange.** It is above a fail if and only if the exchange succeeds. Then it
is the lower of the two grades if the error output shows the marker, and the higher one otherwise,
and the praise counts the messages of the workload. -/
theorem grade_runExchange (subject : Subject σ) (dice : SeededDice ρ)
    (s : ExchangeSettings) (b : Bench σ) :
    ((runExchange subject dice s b).1.grade ≠ .fail ↔ ∃ w o, Succeeds subject dice s b w o) ∧
      ∀ w o, Succeeds subject dice s b w o →
        (ShowsMarker s o →
          (runExchange subject dice s b).1.grade = .partly ∧
            (runExchange subject dice s b).1.score = 4.0 ∧
            ∃ said, (runExchange subject dice s b).1.diagnostics =
              said ++ [praise s w, .warning busyLine]) ∧
        (¬ ShowsMarker s o →
          (runExchange subject dice s b).1.grade = .pass ∧
            (runExchange subject dice s b).1.score = 6.0 ∧
            ∃ said, (runExchange subject dice s b).1.diagnostics = said ++ [praise s w]) := by
  refine ⟨⟨exists_succeeds_of_grade, ?_⟩, fun w o h => ?_⟩
  · rintro ⟨w, o, h⟩
    obtain ⟨said, hverdict⟩ := runExchange_of_succeeds h
    rw [hverdict]
    cases isBusy s.busyMarker o <;> (intro hfail; cases hfail)
  · obtain ⟨said, hverdict⟩ := runExchange_of_succeeds h
    rw [hverdict]
    constructor
    · intro hmarker
      rw [isBusy_iff.2 hmarker]
      exact ⟨rfl, rfl, said, rfl⟩
    · intro hmarker
      have hbusy : isBusy s.busyMarker o = false :=
        Bool.eq_false_iff.2 fun hbusy => hmarker (isBusy_iff.1 hbusy)
      rw [hbusy]
      exact ⟨rfl, rfl, said, rfl⟩

end Suite
end Autograder

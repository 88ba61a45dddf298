/-
# The course of an exchange

An exchange stops at the first of its stages that goes wrong: the target is not made, there is no
workload file, or no workload can be read back from it. If none does, the program is run and
whatever comes of the run is judged. `Course` has a case for each of these ends, with everything
that the exchange comes to, and every exchange takes one of them (`course_runExchange`). An exchange
that can reach the run takes the last of them (`exists_runExchange_eq`).
-/

import Autograder.Proofs.Suite.ExchangeGrade

namespace Autograder
namespace Suite

variable {σ ρ : Type}

/-- What is said about the cleaning before the target is made. -/
def cleaningRemarks (subject : Subject σ) (b : Bench σ) : List Diagnostic :=
  cleanWarnings (b.build subject cleanArgs).1

/-- The bench once the target is made and the workload file is ready, with the files there are
then. -/
def ready (subject : Subject σ) (s : ExchangeSettings) (b : Bench σ) (files : Files) : Bench σ :=
  { (making subject s.flags exchangeTarget b).2 with files := files }

/-- The run of the program on a workload file. -/
def running (subject : Subject σ) (s : ExchangeSettings) (path : String) (b : Bench σ) :
    RunResult × Bench σ :=
  b.run subject exchangeProgram [b.files.absolute path] s.runLimit

/-- The stage at which an exchange ends, and its verdict and bench then. -/
inductive Course (subject : Subject σ) (dice : SeededDice ρ) (s : ExchangeSettings)
    (b : Bench σ) : Verdict × Bench σ → Prop
  /-- The target is not made. -/
  | unmade {failure : Diagnostic} :
      makeFailure? exchangeTarget (making subject s.flags exchangeTarget b).1 = some failure →
      Course subject dice s b
        (.failed .exchange (cleaningRemarks subject b ++ [failure]),
          (making subject s.flags exchangeTarget b).2)
  /-- There is no workload file. Trying to write one leaves the files as they are. -/
  | unprepared {e : WorkloadError} :
      (making subject s.flags exchangeTarget b).1.isSuccess = true →
      prepare dice s (making subject s.flags exchangeTarget b).2.files =
        (.error e, (making subject s.flags exchangeTarget b).2.files) →
      Course subject dice s b
        (.failed .exchange (cleaningRemarks subject b ++
            [.failure ("Could not prepare workload: " ++ e.message)]),
          (making subject s.flags exchangeTarget b).2)
  /-- No workload can be read back from the file. -/
  | unloaded {path : String} {note : Diagnostic} {files : Files} {e : WorkloadError} :
      (making subject s.flags exchangeTarget b).1.isSuccess = true →
      prepare dice s (making subject s.flags exchangeTarget b).2.files =
        (.ok ⟨path, note⟩, files) →
      Workload.load files s.clients path = .error e →
      Course subject dice s b
        (.failed .exchange (cleaningRemarks subject b ++ [note] ++
            [.failure ("Bad workload: " ++ e.message)]),
          ready subject s b files)
  /-- The program is run. -/
  | ran {path text : String} {note : Diagnostic} {files : Files} {w : Workload} {r : RunResult} :
      prepare dice s (making subject s.flags exchangeTarget b).2.files =
        (.ok ⟨path, note⟩, files) →
      Runs subject dice s b path text files w r →
      Course subject dice s b
        (exchangeOn subject s path w (cleaningRemarks subject b ++ [note])
          (ready subject s b files))

variable {subject : Subject σ} {dice : SeededDice ρ} {s : ExchangeSettings} {b : Bench σ}

/-- **What a run comes to**: its judgment, after what there is to say about what was kept of it. -/
theorem exchangeOn_of_runs {path text : String} {files : Files} {w : Workload} {r : RunResult}
    (h : Runs subject dice s b path text files w r) (said : List Diagnostic) :
    exchangeOn subject s path w said (ready subject s b files) =
      (judgeRun s (BucketSet.ofWorkload s.clients w)
          (said ++ (keep s (BucketSet.ofWorkload s.clients w) r
            (running subject s path (ready subject s b files)).2.files).1) r,
        { (running subject s path (ready subject s b files)).2 with
          files := (keep s (BucketSet.ofWorkload s.clients w) r
            (running subject s path (ready subject s b files)).2.files).2 }) := by
  rw [← h.ran]
  rfl

/-- A workload file that cannot be written leaves the files as they are. -/
theorem files_of_prepare_eq_error {fs files : Files} {e : WorkloadError}
    (h : prepare dice s fs = (.error e, files)) : files = fs := by
  unfold prepare at h
  split at h
  · cases h
  · split at h
    · cases h
      rfl
    · split at h
      · cases h
        rfl
      · cases h

/-- What is said about a workload file that is ready only informs. -/
theorem severity_note {fs files : Files} {path : String} {note : Diagnostic}
    (h : prepare dice s fs = (.ok ⟨path, note⟩, files)) : note.severity = .info := by
  unfold prepare at h
  split at h
  · cases h
    rfl
  · split at h
    · cases h
    · split at h
      · cases h
      · cases h
        rfl

/-- What an exchange says of keeping a run: at most that it could not be kept. -/
def IsKeepingRemark (s : ExchangeSettings) (remarks : List Diagnostic) : Prop :=
  remarks = [] ∨ ∃ (directory : String) (e : FileError), s.artifacts = some directory ∧
    remarks = [.warning ("could not write artifacts to " ++ directory ++ ": " ++ e.message)]

theorem isKeepingRemark_keep (s : ExchangeSettings) (expected : BucketSet) (r : RunResult)
    (fs : Files) : IsKeepingRemark s (keep s expected r fs).1 := by
  unfold keep
  split
  · rename_i directory o hartifacts
    split
    · exact .inl rfl
    · exact .inr ⟨directory, _, hartifacts, rfl⟩
  · exact .inl rfl

/-- What is said about what was kept of a run is never more than a warning. -/
theorem severity_of_mem_keep {expected : BucketSet} {r : RunResult} {fs : Files} {d : Diagnostic}
    (h : d ∈ (keep s expected r fs).1) : d.severity = .warning := by
  rcases isKeepingRemark_keep s expected r fs with hkeep | ⟨directory, e, -, hkeep⟩
  · rw [hkeep] at h
    cases h
  · rw [hkeep] at h
    rw [List.mem_singleton.1 h]
    rfl

/-- **Every exchange takes its course.** -/
theorem course_runExchange (subject : Subject σ) (dice : SeededDice ρ) (s : ExchangeSettings)
    (b : Bench σ) : Course subject dice s b (runExchange subject dice s b) := by
  unfold runExchange
  dsimp only
  split
  · rename_i failure hfailure
    exact .unmade hfailure
  · rename_i hnone
    have hmade := failure?_build_eq_none_iff.1 hnone
    rw [build_snd]
    unfold exchangeBuilt
    split
    · rename_i e files hprepare
      cases files_of_prepare_eq_error hprepare
      exact .unprepared hmade hprepare
    · rename_i prepared files hprepare
      dsimp only
      split
      · rename_i e hload
        exact .unloaded hmade hprepare hload
      · rename_i w hload
        obtain ⟨hclients, text, hloaded, hread⟩ := Workload.load_eq_ok_iff.1 hload
        exact .ran hprepare
          ⟨hmade, prepare_eq_ok_iff.1 ⟨prepared.note, hprepare⟩, hclients, hloaded, hread, rfl⟩

/-- **An exchange that can reach the run comes to what the run comes to.** -/
theorem exists_runExchange_eq {path text : String} {files : Files} {w : Workload} {r : RunResult}
    (h : Runs subject dice s b path text files w r) :
    ∃ note : Diagnostic, note.severity = .info ∧ runExchange subject dice s b =
      (judgeRun s (BucketSet.ofWorkload s.clients w)
          (cleaningRemarks subject b ++ [note] ++ (keep s (BucketSet.ofWorkload s.clients w) r
            (running subject s path (ready subject s b files)).2.files).1) r,
        { (running subject s path (ready subject s b files)).2 with
          files := (keep s (BucketSet.ofWorkload s.clients w) r
            (running subject s path (ready subject s b files)).2.files).2 }) := by
  obtain ⟨note, hprepare⟩ := prepare_eq_ok_iff.2 h.prepared
  refine ⟨note, severity_note hprepare, ?_⟩
  rw [← exchangeOn_of_runs h]
  have hload := Workload.load_eq_ok_iff.2 ⟨h.clients, text, h.loaded, h.read⟩
  unfold runExchange
  dsimp only
  rw [failure?_build_eq_none_iff.2 h.made]
  dsimp only
  rw [build_snd, exchangeBuilt, hprepare]
  dsimp only
  rw [hload]
  rfl

end Suite
end Autograder

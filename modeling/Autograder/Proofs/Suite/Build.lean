/-
# Whether a target is made

A build makes two requests, and only the answer to the second of them counts (`making`): the target
is made if and only if that answer is a success (`failure?_build_eq_none_iff`). What is said of a
target that is not made can be told from other lines by its first letter
(`exists_failure_of_makeFailure?`). Likewise there is something to judge of a run if and only if it
is a success (`judgeable_eq_ok_iff`).
-/

import Autograder.Suite.Build

namespace Autograder

theorem RunResult.isSuccess_iff {r : RunResult} :
    r.isSuccess = true ↔ ∃ o : ProcessOutput, r = .ok o ∧ o.success = true := by
  cases r with
  | ok o =>
    constructor
    · intro h
      exact ⟨o, rfl, h⟩
    · rintro ⟨o', ho, h⟩
      cases ho
      exact h
  | error e =>
    constructor
    · intro h
      cases h
    · rintro ⟨o, ho, -⟩
      cases ho

namespace Suite

variable {σ : Type}

/-- No making is a cleaning. -/
theorem makeArgs_ne_cleanArgs (flags target : String) : makeArgs flags target ≠ cleanArgs := by
  intro h
  have hlength : 2 = 1 := congrArg List.length h
  cases hlength

/-- The second request of a build, by which the target is made: its answer, and the bench after
it. -/
def making (subject : Subject σ) (flags target : String) (b : Bench σ) : RunResult × Bench σ :=
  (b.build subject cleanArgs).2.build subject (makeArgs flags target)

theorem makeFailure?_eq_none_iff {target : String} {r : RunResult} :
    makeFailure? target r = none ↔ r.isSuccess = true := by
  cases r with
  | ok o =>
    rw [makeFailure?, RunResult.isSuccess]
    split
    · rename_i h
      exact ⟨fun _ => h, fun _ => rfl⟩
    · rename_i h
      constructor
      · intro hnone
        cases hnone
      · intro hs
        exact absurd hs h
  | error e => constructor <;> (intro h; cases h)

theorem isSuccess_eq_false_of_makeFailure? {target : String} {made : RunResult}
    {failure : Diagnostic} (h : makeFailure? target made = some failure) :
    made.isSuccess = false := by
  rw [← Bool.not_eq_true, ← makeFailure?_eq_none_iff, h]
  exact Option.some_ne_none failure

/-- A message begins with the letter that its first part begins with. -/
theorem head?_append {c : Char} {a : String} (h : a.toList.head? = some c) (b : String) :
    (a ++ b).toList.head? = some c := by
  rw [String.toList_append, List.head?_append, h]
  rfl

/-- A target that is not made is a failure, and its message begins with an `E`. -/
theorem exists_failure_of_makeFailure? {target : String} {made : RunResult} {failure : Diagnostic}
    (h : makeFailure? target made = some failure) :
    ∃ message, failure = .failure message ∧ message.toList.head? = some 'E' := by
  cases made with
  | ok o =>
    rw [makeFailure?] at h
    split at h
    · cases h
    · cases h
      exact ⟨_, rfl, by simp⟩
  | error e =>
    cases h
    exact ⟨_, rfl, by simp⟩

theorem severity_of_makeFailure? {target : String} {made : RunResult} {failure : Diagnostic}
    (h : makeFailure? target made = some failure) : failure.severity = .failure := by
  obtain ⟨message, rfl, -⟩ := exists_failure_of_makeFailure? h
  rfl

/-- **A target is made if and only if the second request is answered with a success.** -/
theorem failure?_build_eq_none_iff {subject : Subject σ} {flags target : String} {b : Bench σ} :
    (build subject flags target b).1.failure? = none ↔
      (making subject flags target b).1.isSuccess = true :=
  makeFailure?_eq_none_iff

theorem build_snd (subject : Subject σ) (flags target : String) (b : Bench σ) :
    (build subject flags target b).2 = (making subject flags target b).2 := rfl

/-- The two requests of a build. -/
theorem calls_making (subject : Subject σ) (flags target : String) (b : Bench σ) :
    (making subject flags target b).2.calls =
      b.calls ++ [.build cleanArgs, .build (makeArgs flags target)] :=
  List.append_assoc b.calls [.build cleanArgs] [.build (makeArgs flags target)]

/-- What is said about a cleaning is never more than a warning. -/
theorem severity_of_mem_cleanWarnings {r : RunResult} {d : Diagnostic} (h : d ∈ cleanWarnings r) :
    d.severity = .warning := by
  cases r with
  | ok o =>
    rw [cleanWarnings] at h
    split at h
    · cases h
    · rw [List.mem_singleton.1 h]
      rfl
  | error e =>
    rw [List.mem_singleton.1 h]
    rfl

/-- **There is an output to judge if and only if the run ended with exit code 0.** -/
theorem judgeable_eq_ok_iff {r : RunResult} {o : ProcessOutput} :
    judgeable r = .ok o ↔ r = .ok o ∧ o.success = true := by
  cases r with
  | ok o' =>
    rw [judgeable]
    split
    · rename_i h
      rw [Except.ok.injEq, Except.ok.injEq]
      constructor
      · rintro rfl
        exact ⟨rfl, h⟩
      · exact fun hs => hs.1
    · rename_i h
      constructor
      · intro hs
        cases hs
      · rintro ⟨hs, hsuccess⟩
        cases hs
        exact absurd hsuccess h
  | error e =>
    constructor
    · intro h
      cases h
    · rintro ⟨h, -⟩
      cases h

end Suite
end Autograder

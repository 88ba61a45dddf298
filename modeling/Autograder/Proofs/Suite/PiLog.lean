/-
# What is asked in a sweep, and what comes of the answers

The outcome of a sweep depends on the bench only through the answers to its requests. `Sweeps` says
which requests are made and what comes of their answers, without any bench: three requests for a
thread count whose target is made, and the first two of them for one whose target is not, which is
then the last. A sweep comes to what its log says (`sweeps_log`), so what follows from a log alone
is proved by induction on `Sweeps`.
-/

import Autograder.Proofs.Subject.Transcript
import Autograder.Proofs.Suite.Build
import Autograder.Suite.Pi

namespace Autograder
namespace Suite

/-- The requests of a sweep over some thread counts with their answers, and what comes of them. -/
inductive Sweeps (s : PiSettings) : List Nat → List (Call × RunResult) → Swept → Prop
  /-- There is nothing to do without thread counts. -/
  | nil : Sweeps s [] [] ⟨[], [], none⟩
  /-- A target that is not made ends the sweep. -/
  | cut {threads : Nat} {rest : List Nat} {cleaned made : RunResult} {failure : Diagnostic} :
      makeFailure? piTarget made = some failure →
      Sweeps s (threads :: rest)
        [(.build cleanArgs, cleaned), (.build (makeArgs (s.flags threads) piTarget), made)]
        ⟨cleanWarnings cleaned, [], some failure⟩
  /-- A target that is made is run, whatever comes of it. -/
  | cons {threads : Nat} {rest : List Nat} {cleaned made ran : RunResult}
      {log : List (Call × RunResult)} {swept : Swept} :
      made.isSuccess = true → Sweeps s rest log swept →
      Sweeps s (threads :: rest)
        ((.build cleanArgs, cleaned) :: (.build (makeArgs (s.flags threads) piTarget), made) ::
          (.run piProgram [] s.runLimit, ran) :: log)
        ⟨cleanWarnings cleaned ++ swept.warnings, outcome threads ran :: swept.outcomes,
          swept.failure?⟩

/-! ## The log of a sweep -/

section Log

variable {σ : Type}

/-- Nothing but its requests happens to the bench in a sweep. -/
theorem exists_asks_sweep (subject : Subject σ) (s : PiSettings) (ts : List Nat) (b : Bench σ) :
    ∃ log, Bench.Asks subject b log (sweep subject s ts b).2 ∧
      Sweeps s ts log (sweep subject s ts b).1 := by
  induction ts generalizing b with
  | nil => exact ⟨[], .refl b, .nil⟩
  | cons threads rest ih =>
    rw [sweep]
    dsimp only
    cases hfailure : (build subject (s.flags threads) piTarget b).1.failure? with
    | some failure => exact ⟨_, .ask (.build _) (.ask (.build _) (.refl _)), .cut hfailure⟩
    | none =>
      obtain ⟨log, hasks, hsweeps⟩ :=
        ih ((build subject (s.flags threads) piTarget b).2.run subject piProgram [] s.runLimit).2
      exact ⟨_, .ask (.build _) (.ask (.build _) (.ask (.run _ _ _) hasks)),
        .cons (failure?_build_eq_none_iff.1 hfailure) hsweeps⟩

/-- **A sweep comes to what its log says.** -/
theorem sweeps_log (subject : Subject σ) (s : PiSettings) (ts : List Nat) (b : Bench σ) :
    Sweeps s ts (Bench.log subject b (sweep subject s ts b).2) (sweep subject s ts b).1 := by
  obtain ⟨log, hasks, hsweeps⟩ := exists_asks_sweep subject s ts b
  rwa [hasks.log_eq]

/-- The test asks for what its log says, and for nothing else. -/
theorem asks_runPi (subject : Subject σ) (s : PiSettings) (b : Bench σ) :
    Bench.Asks subject b (Bench.log subject b (runPi subject s b).2) (runPi subject s b).2 := by
  obtain ⟨log, hasks, -⟩ := exists_asks_sweep subject s s.threadCounts b
  have hlog : Bench.log subject b (runPi subject s b).2 = log := hasks.log_eq
  rw [hlog]
  exact hasks

/-- The test is a sweep over all its thread counts. -/
theorem sweeps_runPi (subject : Subject σ) (s : PiSettings) (b : Bench σ) :
    Sweeps s s.threadCounts (Bench.log subject b (runPi subject s b).2)
      (sweep subject s s.threadCounts b).1 :=
  sweeps_log subject s s.threadCounts b

end Log

/-! ## What a log tells -/

/-- The requests for a thread count whose target is made. -/
def requests (s : PiSettings) (threads : Nat) : List Call :=
  [.build cleanArgs, .build (makeArgs (s.flags threads) piTarget), .run piProgram [] s.runLimit]

/-- The answer to a run. -/
def runAnswer? : Call × RunResult → Option RunResult
  | (.run _ _ _, r) => some r
  | (.build _, _) => none

/-- The answers to the runs of a log, in their order. -/
def runAnswers (log : List (Call × RunResult)) : List RunResult := log.filterMap runAnswer?

variable {s : PiSettings} {ts : List Nat} {log : List (Call × RunResult)} {swept : Swept}

/-- A sweep that is not cut short makes all requests, one thread count after the other. -/
theorem Sweeps.map_fst_eq (h : Sweeps s ts log swept) (hnone : swept.failure? = none) :
    log.map Prod.fst = ts.flatMap (requests s) := by
  induction h with
  | nil => rfl
  | cut _ => cases hnone
  | cons _ _ ih =>
    rw [List.flatMap_cons, ← ih hnone]
    rfl

/-- Each run has its outcome, with the thread counts in their order. -/
theorem Sweeps.outcomes_eq (h : Sweeps s ts log swept) :
    swept.outcomes = List.zipWith outcome ts (runAnswers log) := by
  induction h with
  | nil => rfl
  | cut _ => rfl
  | cons _ _ ih =>
    rw [ih]
    rfl

/-- A sweep that is not cut short has a run for each thread count. -/
theorem Sweeps.length_runAnswers (h : Sweeps s ts log swept) (hnone : swept.failure? = none) :
    (runAnswers log).length = ts.length := by
  induction h with
  | nil => rfl
  | cut _ => cases hnone
  | cons _ _ ih => exact congrArg Nat.succ (ih hnone)

/-- A sweep is cut short by a target that is not made. -/
theorem Sweeps.exists_not_made (h : Sweeps s ts log swept) (hsome : swept.failure? ≠ none) :
    ∃ t ∈ ts, ∃ made, (.build (makeArgs (s.flags t) piTarget), made) ∈ log ∧
      made.isSuccess = false := by
  induction h with
  | nil => exact absurd rfl hsome
  | @cut threads rest cleaned made failure hfailure =>
    exact ⟨threads, List.mem_cons_self, made, List.mem_cons_of_mem _ List.mem_cons_self,
      isSuccess_eq_false_of_makeFailure? hfailure⟩
  | cons _ _ ih =>
    obtain ⟨t, ht, made, hmem, hmade⟩ := ih hsome
    exact ⟨t, List.mem_cons_of_mem _ ht, made,
      List.mem_cons_of_mem _ (List.mem_cons_of_mem _ (List.mem_cons_of_mem _ hmem)), hmade⟩

/-- In a sweep that is not cut short each target is made. -/
theorem Sweeps.isSuccess_of_mem (h : Sweeps s ts log swept) (hnone : swept.failure? = none)
    {flags : String} {made : RunResult} (hmem : (.build (makeArgs flags piTarget), made) ∈ log) :
    made.isSuccess = true := by
  induction h with
  | nil => exact absurd hmem List.not_mem_nil
  | cut _ => cases hnone
  | cons hmade _ ih =>
    rcases List.mem_cons.1 hmem with heq | hmem
    · exact absurd (Call.build.inj (Prod.mk.inj heq).1) (makeArgs_ne_cleanArgs _ _)
    · rcases List.mem_cons.1 hmem with heq | hmem
      · rw [(Prod.mk.inj heq).2]
        exact hmade
      · rcases List.mem_cons.1 hmem with heq | hmem
        · cases heq
        · exact ih hnone hmem

end Suite
end Autograder

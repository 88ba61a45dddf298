/-
# What the parallel pi test asks for

Which requests the test makes depends on one thing only: the index of the first thread count whose
target is not made (`firstUnmade?`). It makes three requests for each thread count before that one,
two for that one, and then no more (`Sweeps.map_fst_eq_requestsUpTo`). Nothing that a cleaning or a
run answers has a part in it. A target that is not made is also the last thing that the verdict
speaks of (`calls_runPi`).
-/

import Autograder.Proofs.Suite.PiLog

namespace Autograder
namespace Suite

/-- The answer to the request that a target is made. -/
def makeAnswer? : Call × RunResult → Option RunResult
  | (.build args, r) => if args = cleanArgs then none else some r
  | (.run _ _ _, _) => none

/-- Whether the targets were made, in the order of the requests. -/
def makeAnswers (log : List (Call × RunResult)) : List RunResult := log.filterMap makeAnswer?

/-- The index of the first target that is not made, if there is one. -/
def firstUnmade? (log : List (Call × RunResult)) : Option Nat :=
  (makeAnswers log).findIdx? fun r => !r.isSuccess

/-- The requests for a thread count up to the making of its target. -/
def buildRequests (s : PiSettings) (threads : Nat) : List Call :=
  [.build cleanArgs, .build (makeArgs (s.flags threads) piTarget)]

/-- The requests of a sweep over some thread counts, if the first target that is not made is the one
at an index: all those for the thread counts before it, and those that build it. -/
def requestsUpTo (s : PiSettings) (ts : List Nat) : Option Nat → List Call
  | none => ts.flatMap (requests s)
  | some k => (ts.take k).flatMap (requests s) ++ ts[k]?.toList.flatMap (buildRequests s)

variable {s : PiSettings} {ts : List Nat} {log : List (Call × RunResult)} {swept : Swept}

theorem requestsUpTo_cons (s : PiSettings) (t : Nat) (ts : List Nat) (k : Option Nat) :
    requestsUpTo s (t :: ts) (k.map (· + 1)) = requests s t ++ requestsUpTo s ts k := by
  cases k with
  | none => rw [Option.map_none, requestsUpTo, requestsUpTo, List.flatMap_cons]
  | some k =>
    rw [Option.map_some, requestsUpTo, requestsUpTo, List.take_succ_cons, List.flatMap_cons,
      List.append_assoc, List.getElem?_cons_succ]

/-! ## The answers that count -/

/-- Of the answers for a thread count only the one to the making is kept. -/
theorem makeAnswers_build (cleaned made : RunResult) (flags : String)
    (rest : List (Call × RunResult)) :
    makeAnswers ((.build cleanArgs, cleaned) :: (.build (makeArgs flags piTarget), made) :: rest) =
      made :: makeAnswers rest := by
  have hcleaned : makeAnswer? (.build cleanArgs, cleaned) = none := by
    rw [makeAnswer?, if_pos rfl]
  have hmade : makeAnswer? (.build (makeArgs flags piTarget), made) = some made := by
    rw [makeAnswer?, if_neg (makeArgs_ne_cleanArgs _ _)]
  rw [makeAnswers, List.filterMap_cons_none hcleaned, List.filterMap_cons_some hmade, makeAnswers]

theorem makeAnswers_run (program : String) (args : List String) (limit : Nat) (ran : RunResult)
    (rest : List (Call × RunResult)) :
    makeAnswers ((.run program args limit, ran) :: rest) = makeAnswers rest :=
  List.filterMap_cons_none rfl

/-- Only whether the targets are made counts. -/
theorem firstUnmade?_eq (log : List (Call × RunResult)) :
    firstUnmade? log = ((makeAnswers log).map RunResult.isSuccess).findIdx? fun made => !made := by
  rw [firstUnmade?, List.findIdx?_map]
  rfl

/-- The first target is the one that ends the sweep. -/
theorem firstUnmade?_cut {cleaned made : RunResult} (flags : String)
    (h : made.isSuccess = false) :
    firstUnmade? [(.build cleanArgs, cleaned), (.build (makeArgs flags piTarget), made)] =
      some 0 := by
  rw [firstUnmade?, makeAnswers_build, List.findIdx?_cons, h]
  rfl

/-- A target that is made is passed over. -/
theorem firstUnmade?_cons {cleaned made ran : RunResult} (flags : String) (program : String)
    (args : List String) (limit : Nat) (h : made.isSuccess = true) :
    firstUnmade? ((.build cleanArgs, cleaned) :: (.build (makeArgs flags piTarget), made) ::
        (.run program args limit, ran) :: log) =
      (firstUnmade? log).map (· + 1) := by
  rw [firstUnmade?, makeAnswers_build, makeAnswers_run, List.findIdx?_cons, h]
  rfl

/-! ## Sweeps -/

/-- **The requests of a sweep**: all of them, up to the first target that is not made. -/
theorem Sweeps.map_fst_eq_requestsUpTo (h : Sweeps s ts log swept) :
    log.map Prod.fst = requestsUpTo s ts (firstUnmade? log) := by
  induction h with
  | nil => rfl
  | cut hfailure =>
    rw [firstUnmade?_cut _ (isSuccess_eq_false_of_makeFailure? hfailure)]
    rfl
  | cons hmade _ ih =>
    rw [firstUnmade?_cons _ _ _ _ hmade, requestsUpTo_cons, ← ih]
    rfl

/-- The first target that is not made is that of a thread count, and its failure ends the sweep. -/
theorem Sweeps.exists_failure (h : Sweeps s ts log swept) {k : Nat}
    (hk : firstUnmade? log = some k) :
    k < ts.length ∧ ∃ made failure, (makeAnswers log)[k]? = some made ∧
      makeFailure? piTarget made = some failure ∧ swept.failure? = some failure := by
  induction h generalizing k with
  | nil => cases hk
  | @cut threads rest cleaned made failure hfailure =>
    rw [firstUnmade?_cut _ (isSuccess_eq_false_of_makeFailure? hfailure)] at hk
    cases hk
    refine ⟨Nat.zero_lt_succ _, made, failure, ?_, hfailure, rfl⟩
    rw [makeAnswers_build, List.getElem?_cons_zero]
  | cons hmade _ ih =>
    rw [firstUnmade?_cons _ _ _ _ hmade] at hk
    obtain ⟨i, hi, rfl⟩ := Option.map_eq_some_iff.1 hk
    obtain ⟨hlt, made, failure, hget, hfailure, hswept⟩ := ih hi
    refine ⟨Nat.succ_lt_succ hlt, made, failure, ?_, hfailure, hswept⟩
    rw [makeAnswers_build, makeAnswers_run, List.getElem?_cons_succ, hget]

/-- A sweep that was cut short fails, and its failure is the last thing said. -/
theorem judgeSweep_of_failure {failure : Diagnostic} (h : swept.failure? = some failure) :
    (judgeSweep s swept).grade = .fail ∧
      (judgeSweep s swept).diagnostics.getLast? = some failure := by
  rw [judgeSweep, h]
  exact ⟨rfl, List.getLast?_concat⟩

/-- **The requests of the parallel pi test** are those up to the first target that is not made; its
failure fails the test, and is the last thing said. So two tests with the same settings whose
targets are made alike make the same requests, whatever else they are answered. -/
theorem calls_runPi {σ : Type} (subject : Subject σ) (s : PiSettings) (b : Bench σ) :
    (runPi subject s b).2.calls = b.calls ++ requestsUpTo s s.threadCounts
        (firstUnmade? (Bench.log subject b (runPi subject s b).2)) ∧
      (∀ k, firstUnmade? (Bench.log subject b (runPi subject s b).2) = some k →
        k < s.threadCounts.length ∧ (runPi subject s b).1.grade = .fail ∧
          ∃ made failure,
            (makeAnswers (Bench.log subject b (runPi subject s b).2))[k]? = some made ∧
            makeFailure? piTarget made = some failure ∧
            (runPi subject s b).1.diagnostics.getLast? = some failure) ∧
      ∀ {σ' : Type} (subject' : Subject σ') (b' : Bench σ'),
        (makeAnswers (Bench.log subject' b' (runPi subject' s b').2)).map RunResult.isSuccess =
          (makeAnswers (Bench.log subject b (runPi subject s b).2)).map RunResult.isSuccess →
        (Bench.log subject' b' (runPi subject' s b').2).map Prod.fst =
          (Bench.log subject b (runPi subject s b).2).map Prod.fst := by
  have hsweeps {τ : Type} (subject : Subject τ) (b : Bench τ) :
      Sweeps s s.threadCounts (Bench.log subject b (runPi subject s b).2)
        (sweep subject s s.threadCounts b).1 := sweeps_log subject s s.threadCounts b
  obtain ⟨log, hasks, -⟩ := exists_asks_sweep subject s s.threadCounts b
  refine ⟨?_, fun k hk => ?_, fun subject' b' halike => ?_⟩
  · rw [← (hsweeps subject b).map_fst_eq_requestsUpTo]
    have hlog : Bench.log subject b (runPi subject s b).2 = log := hasks.log_eq
    rw [hlog]
    exact hasks.calls_eq
  · obtain ⟨hlt, made, failure, hmade, hfailure, hswept⟩ := (hsweeps subject b).exists_failure hk
    obtain ⟨hgrade, hlast⟩ := judgeSweep_of_failure (s := s) hswept
    exact ⟨hlt, hgrade, made, failure, hmade, hfailure, hlast⟩
  · rw [(hsweeps subject' b').map_fst_eq_requestsUpTo, (hsweeps subject b).map_fst_eq_requestsUpTo,
      firstUnmade?_eq, halike, ← firstUnmade?_eq]

end Suite
end Autograder

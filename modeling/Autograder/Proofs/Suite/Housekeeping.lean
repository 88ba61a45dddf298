/-
# Housekeeping never counts

A test does two things that it does not judge: it has the subject cleaned before a target is made,
and it may keep what there is of a run. If all else is answered in the same way, two tests ask for
the same, get the same grade, and say the same but for the remarks on the cleanings (`EndsAlike`).
Two exchanges that differ only in what is kept of them differ at most in the remark that it could
not be kept (`KeepsAlike`).

For the pi test two logs are compared, since nothing but answers has a part in it. An exchange also
reads and writes files, so there the answers are compared together with the files they leave
behind (`ExchangesAlike`).
-/

import Autograder.Proofs.Suite.ExchangeCourse
import Autograder.Proofs.Suite.PiLog
import Autograder.Random.ChaCha
import Autograder.Subject.Scripted

namespace Autograder

/-- The verdict, after what has been said already. -/
def Verdict.after (said : List Diagnostic) (v : Verdict) : Verdict :=
  { v with diagnostics := said ++ v.diagnostics }

namespace Suite

variable {σ σ' ρ : Type} {subject : Subject σ} {subject' : Subject σ'} {dice : SeededDice ρ}
  {b : Bench σ} {b' : Bench σ'}

/-- Two tests ask for the same and come to the same verdict, but for what each of them says
first. -/
structure EndsAlike (b : Bench σ) (b' : Bench σ') (said said' : List Diagnostic)
    (out : Verdict × Bench σ) (out' : Verdict × Bench σ') : Prop where
  calls : ∃ cs, out.2.calls = b.calls ++ cs ∧ out'.2.calls = b'.calls ++ cs
  grade : out.1.grade = out'.1.grade
  diagnostics : ∃ rest, out.1.diagnostics = said ++ rest ∧ out'.1.diagnostics = said' ++ rest

theorem EndsAlike.of_after {said said' : List Diagnostic} {v : Verdict} {cs : List Call}
    {out : Verdict × Bench σ} {out' : Verdict × Bench σ'}
    (hv : out.1 = v.after said) (hv' : out'.1 = v.after said')
    (hc : out.2.calls = b.calls ++ cs) (hc' : out'.2.calls = b'.calls ++ cs) :
    EndsAlike b b' said said' out out' where
  calls := ⟨cs, hc, hc'⟩
  grade := by rw [hv, hv', Verdict.after, Verdict.after]
  diagnostics := ⟨v.diagnostics, by rw [hv, Verdict.after], by rw [hv', Verdict.after]⟩

/-- What is asked before both tests may be counted among what they ask. -/
theorem EndsAlike.of_calls {said said' : List Diagnostic} {before : List Call}
    {c : Bench σ} {c' : Bench σ'} {out : Verdict × Bench σ} {out' : Verdict × Bench σ'}
    (h : EndsAlike c c' said said' out out') (hc : c.calls = b.calls ++ before)
    (hc' : c'.calls = b'.calls ++ before) : EndsAlike b b' said said' out out' where
  calls := by
    obtain ⟨cs, hcs, hcs'⟩ := h.calls
    exact ⟨before ++ cs, by rw [hcs, hc, List.append_assoc], by rw [hcs', hc', List.append_assoc]⟩
  grade := h.grade
  diagnostics := h.diagnostics

/-! ## The parallel pi test -/

section Pi

variable {s : PiSettings} {ts : List Nat} {log log' : List (Call × RunResult)}
  {swept swept' : Swept}

/-- Where two logs make the same request, it is answered in the same way, unless it cleans. -/
def AnsweredAlike (log log' : List (Call × RunResult)) : Prop :=
  ∀ p ∈ log.zip log', p.1.1 = p.2.1 → p.1.1 ≠ .build cleanArgs → p.1.2 = p.2.2

theorem answeredAlike_cons_iff {p p' : Call × RunResult} :
    AnsweredAlike (p :: log) (p' :: log') ↔
      (p.1 = p'.1 → p.1 ≠ .build cleanArgs → p.2 = p'.2) ∧ AnsweredAlike log log' :=
  List.forall_mem_cons

/-- Of the two requests of a build, the second is answered alike. -/
theorem AnsweredAlike.of_build {cleaned cleaned' made made' : RunResult} {flags target : String}
    (h : AnsweredAlike
      ((.build cleanArgs, cleaned) :: (.build (makeArgs flags target), made) :: log)
      ((.build cleanArgs, cleaned') :: (.build (makeArgs flags target), made') :: log')) :
    made = made' ∧ AnsweredAlike log log' := by
  obtain ⟨hmade, hlog⟩ := answeredAlike_cons_iff.1 (answeredAlike_cons_iff.1 h).2
  exact ⟨hmade rfl fun heq => makeArgs_ne_cleanArgs _ _ (Call.build.inj heq), hlog⟩

/-- What there is to say about a request because it cleans. -/
def remarksOn : Call × RunResult → List Diagnostic
  | (.build args, r) => if args = cleanArgs then cleanWarnings r else []
  | (.run _ _ _, _) => []

/-- What there is to say about the two requests of a build is about the first of them. -/
theorem flatMap_remarksOn_build (cleaned made : RunResult) (flags target : String)
    (rest : List (Call × RunResult)) :
    ((.build cleanArgs, cleaned) :: (.build (makeArgs flags target), made) :: rest).flatMap
        remarksOn = cleanWarnings cleaned ++ rest.flatMap remarksOn := by
  rw [List.flatMap_cons, List.flatMap_cons, remarksOn, if_pos rfl, remarksOn,
    if_neg (makeArgs_ne_cleanArgs _ _), List.nil_append]

/-- All that is said of a sweep before its runs are judged is about the cleanings. -/
theorem Sweeps.warnings_eq (h : Sweeps s ts log swept) :
    swept.warnings = log.flatMap remarksOn := by
  induction h with
  | nil => rfl
  | cut _ => rw [flatMap_remarksOn_build, List.flatMap_nil, List.append_nil]
  | cons _ _ ih =>
    rw [flatMap_remarksOn_build, ih]
    rfl

/-- **The cleanings have no part in what is asked in a sweep and in what it comes to.** -/
theorem Sweeps.alike (h : Sweeps s ts log swept) (h' : Sweeps s ts log' swept')
    (halike : AnsweredAlike log log') :
    log.map Prod.fst = log'.map Prod.fst ∧ swept.outcomes = swept'.outcomes ∧
      swept.failure? = swept'.failure? := by
  -- The two sweeps go on together: a target is made in both or in neither.
  induction h generalizing log' swept' with
  | nil =>
    cases h'
    exact ⟨rfl, rfl, rfl⟩
  | cut hfailure =>
    cases h' with
    | cut hfailure' =>
      obtain ⟨rfl, -⟩ := halike.of_build
      exact ⟨rfl, rfl, hfailure.symm.trans hfailure'⟩
    | cons hmade' _ =>
      obtain ⟨rfl, -⟩ := halike.of_build
      simp [isSuccess_eq_false_of_makeFailure? hfailure] at hmade'
  | @cons _ _ _ _ ran _ _ hmade _ ih =>
    cases h' with
    | cut hfailure' =>
      obtain ⟨rfl, -⟩ := halike.of_build
      simp [isSuccess_eq_false_of_makeFailure? hfailure'] at hmade
    | @cons _ _ _ _ ran' _ _ _ hrest' =>
      obtain ⟨rfl, hrun⟩ := halike.of_build
      obtain ⟨hran, hlog⟩ := answeredAlike_cons_iff.1 hrun
      obtain rfl : ran = ran' := hran rfl nofun
      obtain ⟨hcalls, houtcomes, hfailure⟩ := ih hrest' hlog
      simp [hcalls, houtcomes, hfailure]

/-- The judgment of a sweep comes after the remarks on its cleanings. -/
theorem judgeSweep_eq_after (s : PiSettings) (swept : Swept) :
    judgeSweep s swept = (judgeSweep s ⟨[], swept.outcomes, swept.failure?⟩).after
      swept.warnings := by
  obtain ⟨warnings, outcomes, failure?⟩ := swept
  cases failure? with
  | some failure => rfl
  | none =>
    rw [judgeSweep, judgeSweep]
    dsimp only
    rw [List.nil_append, List.append_assoc]
    rfl

/-- **Two pi tests end alike**, whatever is answered to their cleanings. -/
theorem endsAlike_runPi (s : PiSettings)
    (h : AnsweredAlike (Bench.log subject b (runPi subject s b).2)
      (Bench.log subject' b' (runPi subject' s b').2)) :
    EndsAlike b b' ((Bench.log subject b (runPi subject s b).2).flatMap remarksOn)
      ((Bench.log subject' b' (runPi subject' s b').2).flatMap remarksOn)
      (runPi subject s b) (runPi subject' s b') := by
  have hsweeps := sweeps_runPi subject s b
  have hsweeps' := sweeps_runPi subject' s b'
  obtain ⟨hcalls, houtcomes, hfailure⟩ := hsweeps.alike hsweeps' h
  rw [← hsweeps.warnings_eq, ← hsweeps'.warnings_eq]
  refine .of_after (judgeSweep_eq_after s _) ?_ (asks_runPi subject s b).calls_eq ?_
  · rw [houtcomes, hfailure]
    exact judgeSweep_eq_after s _
  · rw [hcalls]
    exact (asks_runPi subject' s b').calls_eq

end Pi

/-! ## The message exchange test -/

section Exchange

variable {s : ExchangeSettings}

/-- Two requests are answered in the same way, and leave the same files. -/
def SameAnswer (answered : RunResult × Bench σ) (answered' : RunResult × Bench σ') : Prop :=
  answered.1 = answered'.1 ∧ answered.2.files = answered'.2.files

/-- The target is made alike, and the program is run alike once the workload file is ready. -/
structure ExchangesAlike (subject : Subject σ) (subject' : Subject σ') (dice : SeededDice ρ)
    (s : ExchangeSettings) (b : Bench σ) (b' : Bench σ') : Prop where
  made : SameAnswer (making subject s.flags exchangeTarget b)
    (making subject' s.flags exchangeTarget b')
  ran : ∀ path files,
    Prepares dice s (making subject s.flags exchangeTarget b).2.files path files →
    SameAnswer (running subject s path (ready subject s b files))
      (running subject' s path (ready subject' s b' files))

/-- An output is judged after what has been said already. -/
theorem judgeOutput_append (s : ExchangeSettings) (expected : BucketSet)
    (said said' : List Diagnostic) (o : ProcessOutput) :
    judgeOutput s expected (said ++ said') o = (judgeOutput s expected said' o).after said := by
  unfold judgeOutput
  split
  · rw [List.append_assoc]
    rfl
  · split
    · rw [List.append_assoc]
      rfl
    · dsimp only
      rw [List.append_assoc]
      rfl

/-- A run is judged after what has been said already. -/
theorem judgeRun_append (s : ExchangeSettings) (expected : BucketSet)
    (said said' : List Diagnostic) (r : RunResult) :
    judgeRun s expected (said ++ said') r = (judgeRun s expected said' r).after said := by
  unfold judgeRun
  split
  · rw [List.append_assoc]
    rfl
  · exact judgeOutput_append s expected said said' _

/-- An exchange of a subject that has been built is judged after what has been said already. -/
theorem exchangeBuilt_eq_after (subject : Subject σ) (dice : SeededDice ρ) (s : ExchangeSettings)
    (said : List Diagnostic) (b : Bench σ) :
    exchangeBuilt subject dice s said b =
      ((exchangeBuilt subject dice s [] b).1.after said,
        (exchangeBuilt subject dice s [] b).2) := by
  unfold exchangeBuilt
  split
  · rfl
  · dsimp only
    split
    · rw [List.append_assoc]
      rfl
    · rw [exchangeOn, exchangeOn]
      dsimp only
      rw [List.append_assoc, judgeRun_append]
      rfl

/-- From the same files on, exchanges are alike if their runs are. -/
theorem exchangeBuilt_alike (hfiles : b.files = b'.files)
    (hran : ∀ path files, Prepares dice s b.files path files →
      SameAnswer (running subject s path { b with files := files })
        (running subject' s path { b' with files := files })) (said : List Diagnostic) :
    (exchangeBuilt subject dice s said b).1 = (exchangeBuilt subject' dice s said b').1 ∧
      ∃ cs, (exchangeBuilt subject dice s said b).2.calls = b.calls ++ cs ∧
        (exchangeBuilt subject' dice s said b').2.calls = b'.calls ++ cs := by
  -- The workload is the same in both, since it is drawn, written and read with the same files.
  unfold exchangeBuilt
  rw [← hfiles]
  split
  · exact ⟨rfl, [], by simp, by simp⟩
  · rename_i prepared files hprepare
    dsimp only
    split
    · exact ⟨rfl, [], by simp, by simp⟩
    · rename_i w _
      obtain ⟨hanswer, hleft⟩ := hran prepared.path files
        (prepare_eq_ok_iff.1 ⟨prepared.note, hprepare⟩)
      unfold running at hanswer hleft
      dsimp only at hanswer hleft
      rw [exchangeOn, exchangeOn]
      dsimp only
      rw [hanswer, hleft]
      exact ⟨rfl, [.run exchangeProgram [files.absolute prepared.path] s.runLimit], rfl, rfl⟩

/-- **Two exchanges end alike**, whatever is answered to their cleanings. -/
theorem endsAlike_runExchange (h : ExchangesAlike subject subject' dice s b b') :
    EndsAlike b b' (cleaningRemarks subject b) (cleaningRemarks subject' b')
      (runExchange subject dice s b) (runExchange subject' dice s b') := by
  obtain ⟨hmade, hfiles⟩ := h.made
  have hcalls := calls_making subject s.flags exchangeTarget b
  have hcalls' := calls_making subject' s.flags exchangeTarget b'
  have hfailure : (build subject s.flags exchangeTarget b).1.failure? =
      (build subject' s.flags exchangeTarget b').1.failure? :=
    congrArg (makeFailure? exchangeTarget) hmade
  unfold runExchange
  dsimp only
  rw [← hfailure, build_snd, build_snd]
  split
  · rename_i failure _
    exact .of_after (v := .failed .exchange [failure]) rfl rfl hcalls hcalls'
  · rw [exchangeBuilt_eq_after, exchangeBuilt_eq_after subject']
    obtain ⟨hverdict, cs, hcs, hcs'⟩ := exchangeBuilt_alike hfiles h.ran []
    refine EndsAlike.of_calls (.of_after rfl ?_ hcs hcs') hcalls hcalls'
    rw [hverdict]
    rfl

/-! ## What is kept -/

/-- Two exchanges ask for the same and come to the same verdict, but for a remark of each on what
could not be kept. -/
structure KeepsAlike (s s' : ExchangeSettings) (out out' : Verdict × Bench σ) : Prop where
  calls : out.2.calls = out'.2.calls
  grade : out.1.grade = out'.1.grade
  diagnostics : ∃ before kept kept' rest, IsKeepingRemark s kept ∧ IsKeepingRemark s' kept' ∧
    out.1.diagnostics = before ++ kept ++ rest ∧ out'.1.diagnostics = before ++ kept' ++ rest

/-- Nothing is kept of an exchange that does not get to its run. -/
theorem KeepsAlike.refl (s s' : ExchangeSettings) (out : Verdict × Bench σ) :
    KeepsAlike s s' out out where
  calls := rfl
  grade := rfl
  diagnostics := ⟨out.1.diagnostics, [], [], [], .inl rfl, .inl rfl, by simp, by simp⟩

/-- A run is judged after what is said of keeping it. -/
theorem exchangeOn_fst (subject : Subject σ) (s : ExchangeSettings) (path : String) (w : Workload)
    (said : List Diagnostic) (b : Bench σ) :
    (exchangeOn subject s path w said b).1 =
      ((judgeRun s (BucketSet.ofWorkload s.clients w) [] (running subject s path b).1).after
        (keep s (BucketSet.ofWorkload s.clients w) (running subject s path b).1
          (running subject s path b).2.files).1).after said := by
  rw [← judgeRun_append, ← judgeRun_append, List.append_nil]
  rfl

/-- **What is kept of a run has no part in its judgment.** -/
theorem keepsAlike_exchangeOn (subject : Subject σ) (s : ExchangeSettings)
    (artifacts : Option String) (path : String) (w : Workload) (said : List Diagnostic)
    (b : Bench σ) :
    KeepsAlike s { s with artifacts := artifacts } (exchangeOn subject s path w said b)
      (exchangeOn subject { s with artifacts := artifacts } path w said b) where
  calls := rfl
  grade := by
    rw [exchangeOn_fst, exchangeOn_fst]
    rfl
  diagnostics := by
    rw [exchangeOn_fst, exchangeOn_fst]
    exact ⟨said, _, _, _, isKeepingRemark_keep _ _ _ _, isKeepingRemark_keep _ _ _ _,
      (List.append_assoc said _ _).symm, (List.append_assoc said _ _).symm⟩

/-- **Two exchanges that differ only in what is kept of them** ask for the same, and come to the
same verdict but for a remark on what could not be kept. -/
theorem keepsAlike_runExchange (subject : Subject σ) (dice : SeededDice ρ) (s : ExchangeSettings)
    (artifacts : Option String) (b : Bench σ) :
    KeepsAlike s { s with artifacts := artifacts } (runExchange subject dice s b)
      (runExchange subject dice { s with artifacts := artifacts } b) := by
  have hbuild : build subject { s with artifacts := artifacts }.flags exchangeTarget b =
    build subject s.flags exchangeTarget b := rfl
  have hprepare (fs : Files) : prepare dice { s with artifacts := artifacts } fs =
    prepare dice s fs := rfl
  unfold runExchange
  dsimp only
  rw [hbuild]
  split
  · exact .refl _ _ _
  · unfold exchangeBuilt
    rw [hprepare]
    split
    · exact .refl _ _ _
    · dsimp only
      split
      · exact .refl _ _ _
      · exact keepsAlike_exchangeOn _ _ _ _ _ _ _

end Exchange

/-! ## Both tests -/

/-- **Housekeeping never changes a grade.** If two subjects differ only in what comes of being
cleaned, each of the tests asks both for the same, gives both the same grade, and says the same of
both but for the remarks on the cleanings. And of one subject, exchanges that differ only in whether
and where they keep what there is of the run ask for the same, give the same grade, and say the same
but for the remark that it could not be kept. -/
theorem endsAlike_but_for_housekeeping (subject : Subject σ) (subject' : Subject σ')
    (dice : SeededDice ρ) (b : Bench σ) (b' : Bench σ') :
    (∀ s : PiSettings,
        AnsweredAlike (Bench.log subject b (runPi subject s b).2)
          (Bench.log subject' b' (runPi subject' s b').2) →
        EndsAlike b b' ((Bench.log subject b (runPi subject s b).2).flatMap remarksOn)
          ((Bench.log subject' b' (runPi subject' s b').2).flatMap remarksOn)
          (runPi subject s b) (runPi subject' s b')) ∧
      (∀ s : ExchangeSettings, ExchangesAlike subject subject' dice s b b' →
        EndsAlike b b' (cleaningRemarks subject b) (cleaningRemarks subject' b')
          (runExchange subject dice s b) (runExchange subject' dice s b')) ∧
      ∀ (s : ExchangeSettings) (artifacts : Option String),
        KeepsAlike s { s with artifacts := artifacts } (runExchange subject dice s b)
          (runExchange subject dice { s with artifacts := artifacts } b) :=
  ⟨fun s h => endsAlike_runPi s h, fun _ h => endsAlike_runExchange h,
    fun s artifacts => keepsAlike_runExchange subject dice s artifacts b⟩

/-- A cleaning that cannot be started, and one that goes well: a sweep of one run, and an exchange of
one message, of which nothing is kept, or something. -/
theorem endsAlike_but_for_housekeeping_unstarted :
    let s : PiSettings := ⟨[1], 1000, .around 3.14 0.01, 4, 1000, false⟩
    let s' : ExchangeSettings := ⟨1, 1, 1, .existing "work.txt", 1000, false, none, none⟩
    let kept : ExchangeSettings := { s' with artifacts := some "kept" }
    let fs := (Files.startingAt ["home"]).setNode ["work.txt", "home"]
      (.file "1 1 hi\n".toUTF8 false)
    let unstarted : RunResult := .error (.spawn "make" "not found")
    let remark : Diagnostic := .warning "make clean: failed to start make: not found"
    let bench (builds : List RunResult) (stdout : String) : Bench Script :=
      ⟨fs, ⟨builds, [.ok ⟨some 0, stdout, "", 1⟩]⟩, []⟩
    let b := bench [unstarted] "3.14"
    let b' := bench [] "3.14"
    let c := bench [unstarted] "1: hi\n"
    let c' := bench [] "1: hi\n"
    (AnsweredAlike (Bench.log Script.subject b (runPi Script.subject s b).2)
        (Bench.log Script.subject b' (runPi Script.subject s b').2) ∧
      EndsAlike b b' [remark] [] (runPi Script.subject s b) (runPi Script.subject s b')) ∧
      (ExchangesAlike Script.subject Script.subject ChaCha.dice s' c c' ∧
        EndsAlike c c' [remark] [] (runExchange Script.subject ChaCha.dice s' c)
          (runExchange Script.subject ChaCha.dice s' c')) ∧
      (runExchange Script.subject ChaCha.dice s' c).1.grade = .pass ∧
      KeepsAlike s' kept (runExchange Script.subject ChaCha.dice s' c)
        (runExchange Script.subject ChaCha.dice kept c) ∧
      (runExchange Script.subject ChaCha.dice kept c).2.files.readText "kept/stdout.txt" =
        .ok "1: hi\n" := by
  intro s s' kept fs unstarted remark bench b b' c c'
  have hpi : AnsweredAlike (Bench.log Script.subject b (runPi Script.subject s b).2)
      (Bench.log Script.subject b' (runPi Script.subject s b').2) := by
    refine answeredAlike_cons_iff.2 ⟨fun _ h => absurd rfl h, ?_⟩
    refine answeredAlike_cons_iff.2 ⟨fun _ _ => rfl, ?_⟩
    refine answeredAlike_cons_iff.2 ⟨fun _ _ => rfl, ?_⟩
    exact List.forall_mem_nil _
  have hexchange : ExchangesAlike Script.subject Script.subject ChaCha.dice s' c c' :=
    ⟨⟨rfl, rfl⟩, fun _ _ _ => ⟨rfl, rfl⟩⟩
  obtain ⟨hends, -, -⟩ :=
    endsAlike_but_for_housekeeping Script.subject Script.subject ChaCha.dice b b'
  obtain ⟨-, hends', hkept⟩ :=
    endsAlike_but_for_housekeeping Script.subject Script.subject ChaCha.dice c c'
  have hgrade : (runExchange Script.subject ChaCha.dice s' c).1.grade = .pass := by decide +kernel
  have hwritten : (runExchange Script.subject ChaCha.dice kept c).2.files.readText
      "kept/stdout.txt" = .ok "1: hi\n" := by decide +kernel
  exact ⟨⟨hpi, hends s hpi⟩, ⟨hexchange, hends' s' hexchange⟩, hgrade, hkept s' (some "kept"),
    hwritten⟩

end Suite
end Autograder

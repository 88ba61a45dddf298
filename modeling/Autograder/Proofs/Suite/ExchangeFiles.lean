/-
# What an exchange asks for, and which files it writes

If the subject itself leaves the files alone, an exchange changes only the file that a random
workload is written to and the files that are kept of a run. Each of its stages is seen as a change
of the files (`changesOnly_prepare`, `changesOnly_keep`), and the course of the exchange says which
stages there are (`Course.changesOnly`). The kept files are written last, so they hold what they
should; the workload file does so too, unless it is one of them (`calls_and_files_gradeExchange`).
-/

import Autograder.Proofs.Files.Path
import Autograder.Proofs.Suite.Artifacts
import Autograder.Proofs.Suite.ExchangeCourse
import Autograder.Proofs.Workload.Drawn
import Autograder.Random.ChaCha
import Autograder.Subject.Scripted
import Autograder.Suite.Settings

namespace Autograder

/-- A subject whose builds and runs leave the files as they are. -/
structure Subject.KeepsFiles {σ : Type} (subject : Subject σ) : Prop where
  build : ∀ args files state, (subject.build args files state).2.1 = files
  run : ∀ program args limit files state, (subject.run program args limit files state).2.1 = files

/-- Prepared answers touch no file. -/
theorem Script.keepsFiles_subject : subject.KeepsFiles where
  build args files state := by
    unfold subject
    dsimp only
    split <;> rfl
  run program args limit files state := by
    unfold subject
    dsimp only
    split <;> rfl

namespace Suite

variable {σ ρ : Type} {subject : Subject σ} {dice : SeededDice ρ} {s : ExchangeSettings}
  {b : Bench σ}

theorem files_making (h : subject.KeepsFiles) (flags target : String) (b : Bench σ) :
    (making subject flags target b).2.files = b.files :=
  (h.build _ _ _).trans (h.build _ _ _)

theorem files_running (h : subject.KeepsFiles) (s : ExchangeSettings) (path : String)
    (b : Bench σ) : (running subject s path b).2.files = b.files :=
  h.run _ _ _ _ _

/-! ## Requests -/

/-- **The requests of an exchange**: two for the build, and one for the run if it is reached. -/
theorem calls_runExchange (subject : Subject σ) (dice : SeededDice ρ) (s : ExchangeSettings)
    (b : Bench σ) :
    (∃ path text files w r, Runs subject dice s b path text files w r ∧
      Path.isAbsolute (files.absolute path) = true ∧
      (runExchange subject dice s b).2.calls = b.calls ++
        [.build cleanArgs, .build (makeArgs s.flags exchangeTarget),
          .run exchangeProgram [files.absolute path] s.runLimit]) ∨
    (¬ ∃ path text files w r, Runs subject dice s b path text files w r) ∧
      (runExchange subject dice s b).2.calls = b.calls ++
        [.build cleanArgs, .build (makeArgs s.flags exchangeTarget)] := by
  have hmaking := calls_making subject s.flags exchangeTarget b
  by_cases hreached : ∃ path text files w r, Runs subject dice s b path text files w r
  · obtain ⟨path, text, files, w, r, hruns⟩ := hreached
    obtain ⟨note, -, hexchange⟩ := exists_runExchange_eq hruns
    have hpath := Files.ne_empty_of_readText hruns.loaded
    refine .inl ⟨path, text, files, w, r, hruns,
      Path.isAbsolute_absolute (Path.isAbsolute_ofNames _) hpath, ?_⟩
    rw [hexchange]
    change (making subject s.flags exchangeTarget b).2.calls ++ _ = _
    rw [hmaking, List.append_assoc]
    rfl
  · refine .inr ⟨hreached, ?_⟩
    have hcourse := course_runExchange subject dice s b
    generalize runExchange subject dice s b = out at hcourse
    cases hcourse with
    | unmade => exact hmaking
    | unprepared => exact hmaking
    | unloaded => exact hmaking
    | ran _ hruns => exact absurd ⟨_, _, _, _, _, hruns⟩ hreached

/-! ## Files -/

/-- The places that a random workload is written to. -/
def workloadPlaces (s : ExchangeSettings) (fs : Files) : Set Place :=
  {p | 1 ≤ s.clients ∧ ∃ path seed corpus, s.source = .generated path seed corpus ∧
    fs.LeadsTo path p}

/-- The places of what is kept of a run, in the files that there are in the end. -/
def keptPlaces (s : ExchangeSettings) (r : RunResult) (fs : Files) : Set Place :=
  {p | ∃ directory o, s.artifacts = some directory ∧ r = .ok o ∧
    p ∈ Artifacts.places fs directory Artifacts.names}

theorem changesOnly_prepare (dice : SeededDice ρ) (s : ExchangeSettings) (fs : Files) :
    Files.ChangesOnly (workloadPlaces s fs) fs (prepare dice s fs).2 := by
  unfold prepare
  split
  · exact .refl _ fs
  · rename_i path seed corpus hsource
    split
    · exact .refl _ fs
    · rename_i w hw
      split
      · exact .refl _ fs
      · rename_i files hwrite
        obtain ⟨p, hp, hchange, -⟩ := Files.writeText_spec (Workload.write_eq_ok_iff.1 hwrite)
        refine hchange.mono ?_
        rintro _ rfl
        exact ⟨Workload.pos_of_generate? hw, path, seed, corpus, hsource, hp⟩

theorem files_keep {directory : String} (h : s.artifacts = some directory) (expected : BucketSet)
    (o : ProcessOutput) (fs : Files) :
    (keep s expected (.ok o) fs).2 =
      (Artifacts.write fs directory o.stdout o.stderr expected).2 := by
  unfold keep
  rw [h]
  dsimp only
  split <;> (rename_i hwrite; rw [hwrite])

theorem changesOnly_keep (s : ExchangeSettings) (expected : BucketSet) (r : RunResult)
    (fs : Files) :
    Files.ChangesOnly (keptPlaces s r (keep s expected r fs).2) fs (keep s expected r fs).2 := by
  by_cases hkept : ∃ directory o, s.artifacts = some directory ∧ r = .ok o
  · obtain ⟨directory, o, hartifacts, rfl⟩ := hkept
    rw [files_keep hartifacts]
    refine (Artifacts.changesOnly_write fs directory o.stdout o.stderr expected).mono ?_
    exact fun p hp => ⟨directory, o, hartifacts, rfl, hp⟩
  · have hfiles : (keep s expected r fs).2 = fs := by
      unfold keep
      split
      · rename_i directory o hartifacts
        exact absurd ⟨directory, o, hartifacts, rfl⟩ hkept
      · rfl
    rw [hfiles]
    exact .refl _ fs

/-- The places of what is kept of an exchange: there are some only if it reaches the run, and the
run has an output. -/
def artifactPlaces (subject : Subject σ) (dice : SeededDice ρ) (s : ExchangeSettings)
    (b : Bench σ) (fs : Files) : Set Place :=
  {p | ∃ path text files w r, Runs subject dice s b path text files w r ∧ p ∈ keptPlaces s r fs}

/-- **Once the workload file is ready, only what is kept of the run is written.** -/
theorem Course.changesOnly_of_made (hkeeps : subject.KeepsFiles) {out : Verdict × Bench σ}
    (h : Course subject dice s b out)
    (hmade : (making subject s.flags exchangeTarget b).1.isSuccess = true) :
    Files.ChangesOnly (artifactPlaces subject dice s b out.2.files) (prepare dice s b.files).2
      out.2.files := by
  have hfiles := files_making hkeeps s.flags exchangeTarget b
  cases h with
  | unmade hfailure =>
    simp [isSuccess_eq_false_of_makeFailure? hfailure] at hmade
  | unprepared _ hprepare =>
    rw [hfiles] at hprepare ⊢
    rw [hprepare]
    exact .refl _ _
  | unloaded _ hprepare _ =>
    rw [hfiles] at hprepare
    rw [hprepare]
    exact .refl _ _
  | @ran path text note files w r hprepare hruns =>
    rw [hfiles] at hprepare
    rw [hprepare, exchangeOn_of_runs hruns, files_running hkeeps]
    refine (changesOnly_keep s (BucketSet.ofWorkload s.clients w) r files).mono fun p hp => ?_
    exact ⟨path, text, files, w, r, hruns, hp⟩

/-- **Only the file of a random workload and what is kept of the run are written.** -/
theorem Course.changesOnly (hkeeps : subject.KeepsFiles) {out : Verdict × Bench σ}
    (h : Course subject dice s b out) :
    Files.ChangesOnly
      ({p | (making subject s.flags exchangeTarget b).1.isSuccess = true ∧
          p ∈ workloadPlaces s b.files} ∪ artifactPlaces subject dice s b out.2.files)
      b.files out.2.files := by
  by_cases hmade : (making subject s.flags exchangeTarget b).1.isSuccess = true
  · have hprepare := changesOnly_prepare dice s b.files
    have hkept := h.changesOnly_of_made hkeeps hmade
    exact (hprepare.mono fun p hp => .inl ⟨hmade, hp⟩).trans (hkept.mono Set.subset_union_right)
  · have hfiles : out.2.files = b.files := by
      cases h with
      | unmade => exact files_making hkeeps _ _ _
      | unprepared h => exact absurd h hmade
      | unloaded h => exact absurd h hmade
      | ran _ hruns => exact absurd hruns.made hmade
    rw [hfiles]
    exact .refl _ _

/-- A random workload that is written stays, unless something kept of the run takes its place. -/
theorem readText_of_generated (hkeeps : subject.KeepsFiles) {path : String} {seed : UInt64}
    {corpus : Corpus} {w : Workload} {files : Files} {p : Place}
    (hsource : s.source = .generated path seed corpus)
    (hmade : (making subject s.flags exchangeTarget b).1.isSuccess = true)
    (hw : Workload.generate? dice.toDice corpus s.clients s.messages (dice.ofSeed seed) = some w)
    (hwrite : Workload.write b.files path w = .ok files) (hp : b.files.LeadsTo path p)
    (hkept : p ∉ artifactPlaces subject dice s b (runExchange subject dice s b).2.files) :
    (runExchange subject dice s b).2.files.readText path = .ok w.contents := by
  have hafter := (course_runExchange subject dice s b).changesOnly_of_made hkeeps hmade
  obtain ⟨note, hprepare⟩ := prepare_eq_ok_iff.2 (Prepares.generated hsource hw hwrite)
  rw [hprepare] at hafter
  obtain ⟨q, hq, hchange, hbytes⟩ := Files.writeText_spec (Workload.write_eq_ok_iff.1 hwrite)
  obtain rfl : q = p := hq.unique hp
  exact Files.readText_of_leadsTo (hafter.leadsTo (hchange.leadsTo hp))
    ((hafter.bytes _ hkept).trans hbytes)

/-- **What is kept of a run that has an output can be read**, if all of it can be written. -/
theorem readText_of_artifacts (hkeeps : subject.KeepsFiles) {directory path text : String}
    {files : Files} {w : Workload} {o : ProcessOutput} {paths : List String}
    (hartifacts : s.artifacts = some directory)
    (h : Runs subject dice s b path text files w (.ok o))
    (hwrite : (Artifacts.write files directory o.stdout o.stderr
      (BucketSet.ofWorkload s.clients w)).1 = .ok paths) :
    ∀ f ∈ Artifacts.contents o.stdout o.stderr (BucketSet.ofWorkload s.clients w),
      (runExchange subject dice s b).2.files.readText (Path.join directory f.1) = .ok f.2 := by
  obtain ⟨note, -, hexchange⟩ := exists_runExchange_eq h
  rw [hexchange, files_running hkeeps, files_keep hartifacts]
  exact Artifacts.readText_of_write hwrite

/-- **What an exchange asks for, and which files it writes**, if the subject leaves the files alone.
Without a corpus nothing is asked for and nothing is written. Otherwise the subject is cleaned and
made, and then run if and only if the run is reached, with the absolute path of the workload file.
A file changes only if a random workload is written to it, after the target is made, or if it is
kept of a run that has an output. The workload that is written can be read when the program is run,
and also in the end, unless its file is one of those that are kept. Those can be read in the end. -/
theorem calls_and_files_gradeExchange (hkeeps : subject.KeepsFiles) (dice : SeededDice ρ)
    (c : Config) (b : Bench σ) :
    (∀ e, (gradeExchange subject dice c (.error e) b).1.grade = .fail ∧
        (gradeExchange subject dice c (.error e) b).2 = b) ∧
      (∀ source, gradeExchange subject dice c (.ok source) b =
        runExchange subject dice (.ofConfig c source) b) ∧
      ∀ s : ExchangeSettings,
        ((∃ path text files w r, Runs subject dice s b path text files w r ∧
            Path.isAbsolute (files.absolute path) = true ∧
            (runExchange subject dice s b).2.calls = b.calls ++
              [.build cleanArgs, .build (makeArgs s.flags exchangeTarget),
                .run exchangeProgram [files.absolute path] s.runLimit]) ∨
          (¬ ∃ path text files w r, Runs subject dice s b path text files w r) ∧
            (runExchange subject dice s b).2.calls = b.calls ++
              [.build cleanArgs, .build (makeArgs s.flags exchangeTarget)]) ∧
        (∀ p, (runExchange subject dice s b).2.files.bytesAt? p ≠ b.files.bytesAt? p →
          (making subject s.flags exchangeTarget b).1.isSuccess = true ∧
              p ∈ workloadPlaces s b.files ∨
            p ∈ artifactPlaces subject dice s b (runExchange subject dice s b).2.files) ∧
        (∀ path seed corpus w files, s.source = .generated path seed corpus →
          (making subject s.flags exchangeTarget b).1.isSuccess = true →
          Workload.generate? dice.toDice corpus s.clients s.messages (dice.ofSeed seed) = some w →
          Workload.write b.files path w = .ok files →
          files.readText path = .ok w.contents ∧
            ∀ p, b.files.LeadsTo path p →
              p ∉ artifactPlaces subject dice s b (runExchange subject dice s b).2.files →
              (runExchange subject dice s b).2.files.readText path = .ok w.contents) ∧
        ∀ directory path text files w o paths, s.artifacts = some directory →
          Runs subject dice s b path text files w (.ok o) →
          (Artifacts.write files directory o.stdout o.stderr
            (BucketSet.ofWorkload s.clients w)).1 = .ok paths →
          ∀ f ∈ Artifacts.contents o.stdout o.stderr (BucketSet.ofWorkload s.clients w),
            (runExchange subject dice s b).2.files.readText (Path.join directory f.1) =
              .ok f.2 := by
  refine ⟨fun e => ⟨rfl, rfl⟩, fun source => rfl, fun s =>
    ⟨calls_runExchange subject dice s b, fun p hp => ?_, ?_, ?_⟩⟩
  · by_contra hplace
    exact hp (((course_runExchange subject dice s b).changesOnly hkeeps).bytes p hplace)
  · intro path seed corpus w files hsource hmade hw hwrite
    exact ⟨Files.readText_of_writeText (Workload.write_eq_ok_iff.1 hwrite),
      fun p hp hkept => readText_of_generated hkeeps hsource hmade hw hwrite hp hkept⟩
  · intro directory path text files w o paths hartifacts hruns hwrite
    exact readText_of_artifacts hkeeps hartifacts hruns hwrite

/-- One message, whose workload file stands beside the directory for what is kept. -/
theorem files_gradeExchange_beside :
    let s : ExchangeSettings :=
      ⟨1, 1, 1, .generated "work.txt" 7 ⟨["hi"], by decide⟩, 1000, false, some "out", none⟩
    let b : Bench Script := ⟨.startingAt ["home"], ⟨[], [.ok ⟨some 1, "oops", "", 0⟩]⟩, []⟩
    Script.subject.KeepsFiles ∧
      (runExchange Script.subject ChaCha.dice s b).2.files.readText "work.txt" = .ok "1 1 hi\n" ∧
      (runExchange Script.subject ChaCha.dice s b).2.files.readText "out/stdout.txt" =
        .ok "oops" := by
  intro s b
  have hkeeps := Script.keepsFiles_subject
  have hw : Workload.generate? ChaCha.dice.toDice ⟨["hi"], by decide⟩ 1 1 (ChaCha.dice.ofSeed 7) =
      some [⟨1, 1, "hi"⟩] := by decide +kernel
  obtain ⟨-, -, hall⟩ := calls_and_files_gradeExchange hkeeps ChaCha.dice .default b
  obtain ⟨-, -, hworkload, hartifacts⟩ := hall s
  refine ⟨hkeeps, ?_, ?_⟩
  · refine (hworkload "work.txt" 7 _ _ _ rfl rfl hw rfl).2 ["work.txt", "home"] rfl ?_
    rintro ⟨path, text, files, w, r, -, directory, o, hdirectory, -, name, hname, hlead⟩
    cases hdirectory
    simp only [Artifacts.names, List.mem_cons, List.not_mem_nil, or_false] at hname
    rcases hname with rfl | rfl | rfl <;> exact absurd hlead.head?_eq (by decide)
  · have hruns : Runs Script.subject ChaCha.dice s b "work.txt" "1 1 hi\n" _ [⟨1, 1, "hi"⟩]
        (.ok ⟨some 1, "oops", "", 0⟩) :=
      ⟨rfl, .generated rfl hw rfl, by decide, rfl, rfl, rfl⟩
    exact hartifacts "out" "work.txt" _ _ _ _ _ rfl hruns rfl ("stdout.txt", "oops")
      List.mem_cons_self

/-- A workload file that is also one of those that are kept does not hold the workload in the
end. -/
theorem readText_generated_kept :
    let s : ExchangeSettings :=
      ⟨1, 1, 1, .generated "out/stdout.txt" 7 ⟨["hi"], by decide⟩, 1000, false, some "out", none⟩
    let b : Bench Script := ⟨(Files.startingAt ["home"]).setNode ["out", "home"] .directory,
      ⟨[], [.ok ⟨some 0, "1: hi\n", "", 0⟩]⟩, []⟩
    Script.subject.KeepsFiles ∧
      (making Script.subject s.flags exchangeTarget b).1.isSuccess = true ∧
      ∃ w files, Workload.generate? ChaCha.dice.toDice ⟨["hi"], by decide⟩ s.clients s.messages
          (ChaCha.dice.ofSeed 7) = some w ∧
        Workload.write b.files "out/stdout.txt" w = .ok files ∧
        (runExchange Script.subject ChaCha.dice s b).2.files.readText "out/stdout.txt" ≠
          .ok w.contents := by
  intro s b
  have hw : Workload.generate? ChaCha.dice.toDice ⟨["hi"], by decide⟩ 1 1 (ChaCha.dice.ofSeed 7) =
      some [⟨1, 1, "hi"⟩] := by decide +kernel
  have hruns : Runs Script.subject ChaCha.dice s b "out/stdout.txt" "1 1 hi\n" _ [⟨1, 1, "hi"⟩]
      (.ok ⟨some 0, "1: hi\n", "", 0⟩) :=
    ⟨rfl, .generated rfl hw rfl, by decide, rfl, rfl, rfl⟩
  have hread := readText_of_artifacts Script.keepsFiles_subject rfl hruns rfl
    ("stdout.txt", "1: hi\n") List.mem_cons_self
  refine ⟨Script.keepsFiles_subject, rfl, _, _, hw, rfl, fun h => ?_⟩
  have hsame := Except.ok.inj (hread.symm.trans h)
  exact absurd hsame (by decide)

end Suite
end Autograder

/-
# What a workload file holds

A client number stands for itself if it is in range (`readClient_eq_ok_iff`), and a file is read if
and only if each of its lines that is not blank is read, into one message for each
(`read_eq_ok_iff`). So every message of a workload that was read goes from a client to a client
(`destination_mem_of_read`). A workload is loaded from a file if it is read from the text of the
file, and there is at least one client (`load_eq_ok_iff`).
-/

import Autograder.Proofs.Text.Decimal
import Autograder.Proofs.Text.LineByLine
import Autograder.Workload.File

namespace Autograder

/-- **A client number is read as the number that it is, if there is a client of this number.** -/
theorem readClient_eq_ok_iff {n c : Nat} {s : List Char} :
    readClient n s = .ok c ↔ Text.readNat? Text.maxUInt32 s = some c ∧ 1 ≤ c ∧ c ≤ n := by
  unfold readClient
  split
  · rename_i hnone
    rw [hnone]
    constructor
    · intro h
      cases h
    · rintro ⟨h, -⟩
      cases h
  · rename_i k hk
    rw [hk, Option.some.injEq]
    split
    · rename_i hout
      constructor
      · intro h
        cases h
      · rintro ⟨rfl, hc⟩
        omega
    · rename_i hin
      rw [Except.ok.injEq]
      constructor
      · rintro rfl
        exact ⟨rfl, by omega⟩
      · rintro ⟨rfl, -⟩
        rfl

namespace Workload

/-- The lines of a workload file that are not blank. -/
def fileLines (contents : String) : List (List Char) :=
  (Text.lines contents.toList).filter fun l => !Text.isAllBlank l

theorem readLines_eq_readAll (n : Nat) (ls : List (List Char × Nat)) :
    readLines n ls = Text.readAll Text.isAllBlank (readLine n) ls := by
  induction ls with
  | nil => rfl
  | cons l ls ih =>
    rw [readLines, Text.readAll, ih]
    split
    · rfl
    · cases readLine n l.1 l.2 with
      | error e => rfl
      | ok m => cases Text.readAll Text.isAllBlank (readLine n) ls <;> rfl

theorem readLine_eq_mapError (n : Nat) (l : List Char) (number : Nat) :
    readLine n l number =
      (readFields n l).mapError fun fault => ⟨number, String.ofList l, fault⟩ := by
  unfold readLine
  cases readFields n l <;> rfl

theorem readLine_eq_ok_iff {n number : Nat} {l : List Char} {m : Message} :
    readLine n l number = .ok m ↔ readFields n l = .ok m := by
  rw [readLine_eq_mapError, Text.mapError_eq_ok_iff]

/-- **A workload file is read line by line**, one message for each line that is not blank. -/
theorem read_eq_ok_iff {n : Nat} {contents : String} {w : Workload} :
    read n contents = .ok w ↔
      List.Forall₂ (fun l m => readFields n l = .ok m) (fileLines contents) w := by
  rw [read, readLines_eq_readAll, Text.readAll_eq_ok_iff]
  simp only [readLine_eq_ok_iff]
  exact Text.forall₂_numberedLines (R := fun l m => readFields n l = .ok m)

/-- **A line of a workload file**: two client numbers and perhaps a payload, a space between each. -/
theorem readFields_eq_ok_iff {n : Nat} {l : List Char} {m : Message} :
    readFields n l = .ok m ↔
      ∃ source rest destination payload,
        Text.splitAtFirst ' ' l = some (source, rest) ∧
        (Text.splitAtFirst ' ' rest).getD (rest, []) = (destination, payload) ∧
        readClient n source = .ok m.source ∧ readClient n destination = .ok m.destination ∧
        m.payload = String.ofList (Text.trim payload) := by
  unfold readFields
  constructor
  · intro h
    split at h
    · cases h
    · rename_i source rest hsource
      rcases hrest : (Text.splitAtFirst ' ' rest).getD (rest, []) with ⟨destination, payload⟩
      rw [hrest] at h
      refine ⟨source, rest, destination, payload, hsource, hrest, ?_⟩
      dsimp only at h
      split at h
      · cases h
      · cases h
      · rename_i s d hs hd
        cases h
        exact ⟨hs, hd, rfl⟩
  · rintro ⟨source, rest, destination, payload, hsource, hrest, hs, hd, hp⟩
    rw [hsource]
    simp only [hrest, hs, hd, ← hp]

/-- The parts of a line that a message is read from. -/
theorem exists_parts_of_readFields {n : Nat} {l : List Char} {m : Message}
    (h : readFields n l = .ok m) :
    ∃ destination payload, Text.readNat? Text.maxUInt32 destination = some m.destination ∧
      m.payload = String.ofList (Text.trim payload) ∧ ∀ c ∈ payload, c ∈ l := by
  obtain ⟨source, rest, destination, payload, hsource, hrest, -, hd, hp⟩ :=
    readFields_eq_ok_iff.1 h
  refine ⟨destination, payload, (readClient_eq_ok_iff.1 hd).1, hp, fun c hc => ?_⟩
  have hmem : c ∈ rest := by
    cases hcut : Text.splitAtFirst ' ' rest with
    | none =>
      rw [hcut] at hrest
      cases hrest
      exact absurd hc List.not_mem_nil
    | some parts =>
      rw [hcut] at hrest
      cases hrest
      rw [(Text.splitAtFirst_eq_some_iff.1 hcut).1]
      exact List.mem_append_right _ (List.mem_cons_of_mem _ hc)
  rw [(Text.splitAtFirst_eq_some_iff.1 hsource).1]
  exact List.mem_append_right _ (List.mem_cons_of_mem _ hmem)

theorem destination_mem_of_readFields {n : Nat} {l : List Char} {m : Message}
    (h : readFields n l = .ok m) : 1 ≤ m.destination ∧ m.destination ≤ n := by
  obtain ⟨_, _, _, _, -, -, -, hd, -⟩ := readFields_eq_ok_iff.1 h
  exact (readClient_eq_ok_iff.1 hd).2

/-- Every message of a file goes to a client that there is. -/
theorem destination_mem_of_read {n : Nat} {contents : String} {w : Workload}
    (h : read n contents = .ok w) : ∀ m ∈ w, 1 ≤ m.destination ∧ m.destination ≤ n := by
  intro m hm
  obtain ⟨l, -, hl⟩ := Text.exists_line_of_mem (read_eq_ok_iff.1 h) hm
  exact destination_mem_of_readFields hl

theorem write_eq_ok_iff {fs files : Files} {path : String} {w : Workload} :
    write fs path w = .ok files ↔ fs.writeText path w.contents = .ok files := by
  unfold write
  cases fs.writeText path w.contents with
  | ok files' => simp
  | error e => simp

theorem load_eq_ok_iff {fs : Files} {n : Nat} {path : String} {w : Workload} :
    load fs n path = .ok w ↔
      1 ≤ n ∧ ∃ text, fs.readText path = .ok text ∧ read n text = .ok w := by
  constructor
  · intro h
    unfold load at h
    split at h
    · cases h
    · rename_i hn
      split at h
      · cases h
      · rename_i text htext
        split at h
        · cases h
        · rename_i w' hw
          cases h
          exact ⟨Nat.pos_of_ne_zero hn, text, htext, hw⟩
  · rintro ⟨hn, text, htext, hw⟩
    rw [load, if_neg (Nat.ne_of_gt hn), htext]
    dsimp only
    rw [hw]

end Workload
end Autograder

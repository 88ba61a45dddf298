/-
# What an output delivers

A line of output names a client and a payload, whoever the clients are (`Delivery.ofLine?`). An
output is read if and only if each of its lines that is not empty names a client that there is;
then each of these lines is one delivery, and the buckets are those of the deliveries
(`readOutput_eq_ok_iff`).
-/

import Autograder.Proofs.Buckets.Delivery
import Autograder.Proofs.Workload.Lines

namespace Autograder
namespace Delivery

/-- What a line says was delivered: the number before its first colon is the client, and the text
after it the payload, both without the blanks around them. -/
def ofLine? (l : List Char) : Option Delivery :=
  match Text.splitAtFirst ':' l with
  | none => none
  | some (destination, payload) =>
    (Text.readNat? Text.maxUInt32 (Text.trim destination)).map fun client =>
      ⟨client, String.ofList (Text.trim payload)⟩

theorem ofLine?_append_cons {destination payload : List Char} (h : ':' ∉ destination) :
    ofLine? (destination ++ ':' :: payload) =
      (Text.readNat? Text.maxUInt32 (Text.trim destination)).map fun client =>
        ⟨client, String.ofList (Text.trim payload)⟩ := by
  rw [ofLine?, Text.splitAtFirst_append_cons h]

/-- A line is read if it names a client that there is. -/
theorem readFields_eq_ok_iff {n : Nat} {l : List Char} {d : Delivery} :
    readFields n l = .ok d ↔ ofLine? l = some d ∧ 1 ≤ d.client ∧ d.client ≤ n := by
  unfold readFields ofLine?
  cases Text.splitAtFirst ':' l with
  | none =>
    constructor
    · intro h
      cases h
    · rintro ⟨h, -⟩
      cases h
  | some parts =>
    obtain ⟨destination, payload⟩ := parts
    dsimp only
    rw [Option.map_eq_some_iff]
    constructor
    · intro h
      split at h
      · cases h
      · rename_i client hclient
        obtain ⟨hnat, hrange⟩ := readClient_eq_ok_iff.1 hclient
        cases h
        exact ⟨⟨client, hnat, rfl⟩, hrange⟩
    · rintro ⟨⟨client, hnat, rfl⟩, hrange⟩
      rw [readClient_eq_ok_iff.2 ⟨hnat, hrange⟩]

theorem readLine_eq_mapError (n : Nat) (l : List Char) (number : Nat) :
    readLine n l number =
      (readFields n l).mapError fun fault => ⟨number, String.ofList l, fault⟩ := by
  unfold readLine
  cases readFields n l <;> rfl

theorem readLine_eq_ok_iff {n number : Nat} {l : List Char} {d : Delivery} :
    readLine n l number = .ok d ↔ readFields n l = .ok d := by
  rw [readLine_eq_mapError, Text.mapError_eq_ok_iff]

theorem readLines_eq_readAll (n : Nat) (ls : List (List Char × Nat)) :
    readLines n ls = Text.readAll List.isEmpty (readLine n) ls := by
  induction ls with
  | nil => rfl
  | cons l ls ih =>
    rw [readLines, Text.readAll, ih]
    split
    · rfl
    · cases readLine n l.1 l.2 with
      | error e => rfl
      | ok d => cases Text.readAll List.isEmpty (readLine n) ls <;> rfl

end Delivery

namespace BucketSet

/-- The lines of an output that are not empty. -/
def outputLines (stdout : String) : List (List Char) :=
  (Text.lines stdout.toList).filter fun l => !l.isEmpty

/-- What an output delivers, line by line. -/
def delivered (stdout : String) : List Delivery :=
  (outputLines stdout).filterMap Delivery.ofLine?

/-- The payloads that the lines of an output deliver to a client, in their order. -/
def receivedBy (stdout : String) (c : Nat) : List String :=
  Delivery.payloadsFor (delivered stdout) c

/-- Each line of an output that is not empty names one of `n` clients. -/
def IsDelivery (n : Nat) (l : List Char) : Prop :=
  ∃ d, Delivery.ofLine? l = some d ∧ 1 ≤ d.client ∧ d.client ≤ n

theorem forall₂_readFields_iff {n : Nat} {ls : List (List Char)} {ds : List Delivery} :
    List.Forall₂ (fun l d => Delivery.readFields n l = .ok d) ls ds ↔
      (∀ l ∈ ls, IsDelivery n l) ∧ ds = ls.filterMap Delivery.ofLine? := by
  induction ls generalizing ds with
  | nil =>
    rw [List.forall₂_nil_left_iff, List.filterMap_nil]
    exact ⟨fun h => ⟨fun _ hl => absurd hl List.not_mem_nil, h⟩, fun h => h.2⟩
  | cons l ls ih =>
    rw [List.forall₂_cons_left_iff, List.forall_mem_cons]
    constructor
    · rintro ⟨d, es, hd, hes, rfl⟩
      obtain ⟨hline, hrange⟩ := Delivery.readFields_eq_ok_iff.1 hd
      obtain ⟨hall, rfl⟩ := ih.1 hes
      exact ⟨⟨⟨d, hline, hrange⟩, hall⟩, (List.filterMap_cons_some hline).symm⟩
    · rintro ⟨⟨⟨d, hline, hrange⟩, hall⟩, rfl⟩
      refine ⟨d, ls.filterMap Delivery.ofLine?, ?_, ih.2 ⟨hall, rfl⟩,
        List.filterMap_cons_some hline⟩
      exact Delivery.readFields_eq_ok_iff.2 ⟨hline, hrange⟩

/-- **An output is read line by line**: all its lines are deliveries, or there is no result. -/
theorem readOutput_eq_ok_iff {n : Nat} {stdout : String} {s : BucketSet} :
    readOutput n stdout = .ok s ↔
      (∀ l ∈ outputLines stdout, IsDelivery n l) ∧ s = ofDeliveries n (delivered stdout) := by
  have hlines (ds : List Delivery) :
      Delivery.readLines n (Text.numberedLines stdout.toList) = .ok ds ↔
        (∀ l ∈ outputLines stdout, IsDelivery n l) ∧ ds = delivered stdout := by
    rw [Delivery.readLines_eq_readAll, Text.readAll_eq_ok_iff]
    simp only [Delivery.readLine_eq_ok_iff]
    exact (Text.forall₂_numberedLines (R := fun l d => Delivery.readFields n l = .ok d)).trans
      forall₂_readFields_iff
  unfold readOutput
  split
  · rename_i e he
    constructor
    · intro h
      cases h
    · rintro ⟨hall, -⟩
      rw [(hlines _).2 ⟨hall, rfl⟩] at he
      cases he
  · rename_i ds hds
    obtain ⟨hall, rfl⟩ := (hlines ds).1 hds
    rw [Except.ok.injEq]
    exact ⟨fun h => ⟨hall, h.symm⟩, fun h => h.2.symm⟩

/-- Each line of an output that was read is one delivery. -/
theorem length_delivered {n : Nat} {stdout : String}
    (h : ∀ l ∈ outputLines stdout, IsDelivery n l) :
    (delivered stdout).length = (outputLines stdout).length :=
  ((forall₂_readFields_iff.2 ⟨h, rfl⟩).length_eq).symm

theorem client_mem_of_mem_delivered {n : Nat} {stdout : String}
    (h : ∀ l ∈ outputLines stdout, IsDelivery n l) :
    ∀ d ∈ delivered stdout, 1 ≤ d.client ∧ d.client ≤ n := by
  intro d hd
  obtain ⟨l, -, hl⟩ := Text.exists_line_of_mem (forall₂_readFields_iff.2 ⟨h, rfl⟩) hd
  exact (Delivery.readFields_eq_ok_iff.1 hl).2

/-- **Lines in another order deliver the same.** -/
theorem readOutput_of_perm {n : Nat} {stdout stdout' : String} {s : BucketSet}
    (h : readOutput n stdout = .ok s) (hperm : (outputLines stdout').Perm (outputLines stdout)) :
    readOutput n stdout' = .ok s := by
  obtain ⟨hall, rfl⟩ := readOutput_eq_ok_iff.1 h
  refine readOutput_eq_ok_iff.2 ⟨fun l hl => hall l (hperm.subset hl), ?_⟩
  exact ofDeliveries_eq_of_perm n (hperm.filterMap _).symm

end BucketSet
end Autograder

/-
# The grammar of outputs

A line of output is `D:P`, where `D` is the number of a client, perhaps with blanks around it, and
`P` is any text (`Delivery.IsLine`). A line that is not of this form has one fault
(`Delivery.HasFault`). An output is read if and only if each of its lines that is not empty is of
this form; then the bucket of a client is sorted and has the payloads of the lines that name the
client, and otherwise the first line that is not of this form is reported
(`readOutput_iff_isLine`).
-/

import Autograder.Proofs.Buckets.Agreement
import Autograder.Proofs.Workload.Grammar

namespace Autograder
namespace Delivery

variable {n : Nat}

/-! ## Lines -/

/-- A line of an output of `n` clients, and its delivery. The client stands before the first colon
and the payload after it, both without the blanks around them. -/
inductive IsLine (n : Nat) : List Char → Delivery → Prop
  | intro {destination payload : List Char} {c : Nat} : ':' ∉ destination →
      NamesClient n (Text.trim destination) c →
      IsLine n (destination ++ ':' :: payload) ⟨c, String.ofList (Text.trim payload)⟩

/-- What is wrong with a line of an output. -/
inductive HasFault (n : Nat) : List Char → OutputFault → Prop
  | missingColon {l : List Char} : ':' ∉ l → HasFault n l .missingColon
  | destination {destination payload : List Char} {fault : ClientFault} : ':' ∉ destination →
      HasClientFault n (Text.trim destination) fault →
      HasFault n (destination ++ ':' :: payload) (.destination fault)

theorem IsLine.readFields_eq {l : List Char} {d : Delivery} (h : IsLine n l d) :
    readFields n l = .ok d := by
  cases h with
  | intro hcolon hclient =>
    rw [readFields, Text.splitAtFirst_append_cons hcolon]
    simp only [hclient.readClient_eq]

theorem HasFault.readFields_eq {l : List Char} {fault : OutputFault} (h : HasFault n l fault) :
    readFields n l = .error fault := by
  cases h with
  | missingColon hcolon => rw [readFields, Text.splitAtFirst_of_not_mem hcolon]
  | destination hcolon hfault =>
    rw [readFields, Text.splitAtFirst_append_cons hcolon]
    simp only [hfault.readClient_eq]

/-- **Each line is of the form that a line has, or has a fault.** -/
theorem isLine_or_hasFault (n : Nat) (l : List Char) :
    (∃ d, IsLine n l d) ∨ ∃ fault, HasFault n l fault := by
  by_cases hcolon : ':' ∈ l
  · obtain ⟨destination, payload, rfl, hdestination⟩ := List.eq_append_cons_of_mem hcolon
    rcases namesClient_or_hasClientFault n (Text.trim destination) with ⟨c, hc⟩ | ⟨fault, hfault⟩
    · exact Or.inl ⟨_, .intro hdestination hc⟩
    · exact Or.inr ⟨_, .destination hdestination hfault⟩
  · exact Or.inr ⟨_, .missingColon hcolon⟩

/-- **The reader decides whether a line is of the form that a line has.** -/
theorem decides_readFields (n : Nat) (l : List Char) :
    Text.Decides (readFields n l) (IsLine n l) (HasFault n l) :=
  .of_or (fun _ => IsLine.readFields_eq) (fun _ => HasFault.readFields_eq)
    (isLine_or_hasFault n l)

end Delivery

namespace BucketSet

/-! ## Outputs -/

theorem readOutput_eq_error_iff {n : Nat} {stdout : String} {e : BadLine OutputFault} :
    readOutput n stdout = .error e ↔
      e.IsFirst List.isEmpty (Delivery.IsLine n) (Delivery.HasFault n)
        (Text.lines stdout.toList) := by
  rw [← readAll_numberedLines_eq_error_iff (Delivery.readLine_eq_mapError n)
    (Delivery.decides_readFields n), ← Delivery.readLines_eq_readAll, readOutput]
  cases Delivery.readLines n (Text.numberedLines stdout.toList) <;> simp

theorem readOutput_eq_ok_iff_forall₂ {n : Nat} {stdout : String} {s : BucketSet} :
    readOutput n stdout = .ok s ↔
      ∃ ds, List.Forall₂ (Delivery.IsLine n) (outputLines stdout) ds ∧ s = ofDeliveries n ds := by
  have hlines (ds : List Delivery) :
      List.Forall₂ (Delivery.IsLine n) (outputLines stdout) ds ↔
        (∀ l ∈ outputLines stdout, IsDelivery n l) ∧ ds = delivered stdout := by
    rw [delivered, ← forall₂_readFields_iff]
    simp only [(Delivery.decides_readFields n _).eq_ok_iff]
  simp only [hlines, readOutput_eq_ok_iff]
  constructor
  · rintro ⟨hall, rfl⟩
    exact ⟨_, ⟨hall, rfl⟩, rfl⟩
  · rintro ⟨ds, ⟨hall, rfl⟩, rfl⟩
    exact ⟨hall, rfl⟩

/-- The bucket set of some deliveries is the one in which the bucket of each client is sorted and
has the payloads for this client. -/
theorem eq_ofDeliveries_iff {n : Nat} {s : BucketSet} {ds : List Delivery} :
    s = ofDeliveries n ds ↔ s.clientCount = n ∧ ∀ c, 1 ≤ c → c ≤ n →
      (s.bucket c).Pairwise (fun x y => x ≤ y) ∧ (s.bucket c).Perm (Delivery.payloadsFor ds c) := by
  constructor
  · rintro rfl
    refine ⟨clientCount_ofDeliveries n ds, fun c h₁ h₂ => ?_⟩
    rw [bucket_ofDeliveries h₁ h₂]
    exact ⟨pairwise_inOrder _, inOrder_perm _⟩
  · rintro ⟨hcount, hbuckets⟩
    refine ext_bucket (by rw [hcount, clientCount_ofDeliveries]) fun c h₁ h₂ => ?_
    rw [hcount] at h₂
    obtain ⟨hsorted, hperm⟩ := hbuckets c h₁ h₂
    rw [bucket_ofDeliveries h₁ h₂]
    exact List.Perm.eq_of_pairwise (fun _ _ _ _ => String.le_antisymm) hsorted
      (pairwise_inOrder _) (hperm.trans (inOrder_perm _).symm)

/-- **An output is read by its grammar.** It is read if and only if each of its lines that is not
empty is of the form that a line has. Then each of these lines is one delivery, and the bucket of a
client is sorted and has the payloads that are delivered to the client. Otherwise the first of them
that is not of this form is reported, with its number among all lines, its text and its fault. -/
theorem readOutput_iff_isLine (n : Nat) (stdout : String) :
    Text.HasLines stdout.toList (Text.lines stdout.toList) ∧
      (∀ l, (∃ fault, Delivery.HasFault n l fault) ↔ ¬ ∃ d, Delivery.IsLine n l d) ∧
      ((∃ s, readOutput n stdout = .ok s) ↔
        ∀ l ∈ outputLines stdout, ∃ d, Delivery.IsLine n l d) ∧
      (∀ s, readOutput n stdout = .ok s ↔
        ∃ ds, List.Forall₂ (Delivery.IsLine n) (outputLines stdout) ds ∧ s.clientCount = n ∧
          (∀ c, 1 ≤ c → c ≤ n → (s.bucket c).Pairwise (fun x y => x ≤ y) ∧
            (s.bucket c).Perm (Delivery.payloadsFor ds c)) ∧
          s.total = (outputLines stdout).length) ∧
      ∀ e, readOutput n stdout = .error e ↔
        e.IsFirst List.isEmpty (Delivery.IsLine n) (Delivery.HasFault n)
          (Text.lines stdout.toList) := by
  refine ⟨Text.hasLines_lines _, fun l => (Delivery.decides_readFields n l).exists_fault_iff, ?_,
    fun s => ?_, fun e => readOutput_eq_error_iff⟩
  · rw [← Text.exists_forall₂_iff]
    simp only [readOutput_eq_ok_iff_forall₂]
    constructor
    · rintro ⟨_, ds, hds, -⟩
      exact ⟨ds, hds⟩
    · rintro ⟨ds, hds⟩
      exact ⟨_, ds, hds, rfl⟩
  · constructor
    · intro hs
      obtain ⟨ds, hds, hset⟩ := readOutput_eq_ok_iff_forall₂.1 hs
      obtain ⟨hcount, hbuckets⟩ := eq_ofDeliveries_iff.1 hset
      exact ⟨ds, hds, hcount, hbuckets, total_of_readOutput hs⟩
    · rintro ⟨ds, hds, hcount, hbuckets, -⟩
      exact readOutput_eq_ok_iff_forall₂.2 ⟨ds, hds, eq_ofDeliveries_iff.2 ⟨hcount, hbuckets⟩⟩

/-- A line of blanks is not empty, so it is a bad line. -/
example : readOutput 2 "1:a\r\n\n +02 : b:c\n \n3: d" = .error ⟨4, " ", .missingColon⟩ := rfl

end BucketSet
end Autograder

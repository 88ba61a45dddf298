/-
# What the operations do to a bucket

A bucket set is known by its number of clients and by the bucket of each of them (`ext_bucket`).
Each operation is described through this view: a delivery adds a payload to the bucket of its client
and leaves the others alone (`bucket_deliver`), `normalize` sorts each bucket (`bucket_normalize`).
Sorted buckets are equal if and only if they hold the same payloads as often as each other
(`inOrder_eq_iff`), and payloads that belong in front are sorted apart from the rest
(`inOrder_append`).
-/

import Autograder.Buckets
import Mathlib.Data.List.Basic

namespace Autograder
namespace BucketSet

/-- A bucket sorted by the numbers of the characters. -/
def inOrder (b : List String) : List String := b.mergeSort fun x y => decide (x ≤ y)

theorem inOrder_perm (b : List String) : (inOrder b).Perm b := List.mergeSort_perm _ _

theorem pairwise_inOrder (b : List String) : (inOrder b).Pairwise fun x y => x ≤ y := by
  have hsorted : (inOrder b).Pairwise fun x y => decide (x ≤ y) = true := by
    refine List.pairwise_mergeSort (fun x y z hxy hyz => ?_) (fun x y => ?_) b
    · rw [decide_eq_true_eq] at hxy hyz ⊢
      exact String.le_trans hxy hyz
    · rw [Bool.or_eq_true, decide_eq_true_eq, decide_eq_true_eq]
      exact String.le_total x y
  exact hsorted.imp of_decide_eq_true

/-- **Sorting forgets the order and nothing else.** -/
theorem inOrder_eq_iff {a b : List String} : inOrder a = inOrder b ↔ a.Perm b := by
  constructor
  · intro h
    exact (inOrder_perm a).symm.trans (h ▸ inOrder_perm b)
  · intro h
    refine List.Perm.eq_of_pairwise (fun _ _ _ _ => String.le_antisymm) (pairwise_inOrder a)
      (pairwise_inOrder b) ?_
    exact (inOrder_perm a).trans (h.trans (inOrder_perm b).symm)

theorem length_inOrder (b : List String) : (inOrder b).length = b.length :=
  List.length_mergeSort b

/-- Payloads none of which comes after one of some others are sorted apart from them. -/
theorem inOrder_append {a b : List String} (h : ∀ x ∈ a, ∀ y ∈ b, x ≤ y) :
    inOrder (a ++ b) = inOrder a ++ inOrder b := by
  refine List.Perm.eq_of_pairwise (fun _ _ _ _ => String.le_antisymm) (pairwise_inOrder _) ?_
    ((inOrder_perm _).trans ((inOrder_perm a).append (inOrder_perm b)).symm)
  refine List.pairwise_append.2 ⟨pairwise_inOrder a, pairwise_inOrder b, fun x hx y hy => ?_⟩
  exact h x ((inOrder_perm a).subset hx) y ((inOrder_perm b).subset hy)

theorem hasClient_iff {s : BucketSet} {c : Nat} :
    s.hasClient c = true ↔ 1 ≤ c ∧ c ≤ s.clientCount := by
  rw [hasClient, Bool.and_eq_true, decide_eq_true_eq, decide_eq_true_eq]

/-- A number that is no client's has an empty bucket. -/
theorem bucket_of_not_hasClient {s : BucketSet} {c : Nat} (h : ¬s.hasClient c = true) :
    s.bucket c = [] := if_neg h

theorem bucket_succ (s : BucketSet) (i : Nat) : s.bucket (i + 1) = (s.buckets[i]?).getD [] := by
  rw [bucket, Nat.add_sub_cancel, List.getD_eq_getElem?_getD]
  split
  · rfl
  · rename_i h
    rw [hasClient_iff, clientCount] at h
    rw [List.getElem?_eq_none (by omega), Option.getD_none]

/-- **Equal buckets make equal bucket sets.** -/
theorem ext_bucket {s t : BucketSet} (hcount : s.clientCount = t.clientCount)
    (h : ∀ c, 1 ≤ c → c ≤ s.clientCount → s.bucket c = t.bucket c) : s = t := by
  cases s with | mk a =>
  cases t with | mk b =>
  congr 1
  refine List.ext_getElem hcount fun i hi hj => ?_
  have hb := h (i + 1) (by omega) hi
  rwa [bucket_succ, bucket_succ, List.getElem?_eq_getElem hi, List.getElem?_eq_getElem hj] at hb

/-! ## The empty bucket set -/

@[simp]
theorem clientCount_empty (n : Nat) : (empty n).clientCount = n := List.length_replicate

@[simp]
theorem bucket_empty (n c : Nat) : (empty n).bucket c = [] := by
  cases c with
  | zero => rfl
  | succ i =>
    rw [bucket_succ, empty, List.getElem?_replicate]
    split <;> rfl

@[simp]
theorem total_empty (n : Nat) : (empty n).total = 0 := by
  rw [total, empty, List.flatten_replicate_nil, List.length_nil]

/-! ## Deliveries -/

/-- **A delivery is accepted if there is a client of this number.** -/
theorem isSome_deliver? (s : BucketSet) (c : Nat) (p : String) :
    (s.deliver? c p).isSome = s.hasClient c := by
  unfold deliver?
  cases s.hasClient c <;> rfl

theorem deliver_of_hasClient {s : BucketSet} {c : Nat} (h : s.hasClient c = true) (p : String) :
    s.deliver c p = ⟨s.buckets.modify (c - 1) (· ++ [p])⟩ := by
  rw [deliver, deliver?, if_pos h, Option.getD_some]

/-- A delivery to nobody changes nothing. -/
theorem deliver_of_not_hasClient {s : BucketSet} {c : Nat} (h : ¬s.hasClient c = true)
    (p : String) : s.deliver c p = s := by
  rw [deliver, deliver?, if_neg h, Option.getD_none]

@[simp]
theorem clientCount_deliver (s : BucketSet) (c : Nat) (p : String) :
    (s.deliver c p).clientCount = s.clientCount := by
  by_cases h : s.hasClient c = true
  · rw [deliver_of_hasClient h]
    exact List.length_modify _ _ _
  · rw [deliver_of_not_hasClient h]

theorem hasClient_deliver (s : BucketSet) (c : Nat) (p : String) (d : Nat) :
    (s.deliver c p).hasClient d = s.hasClient d := by
  rw [hasClient, hasClient, clientCount_deliver]

/-- **A delivery goes to the bucket of its client and to no other.** -/
theorem bucket_deliver (s : BucketSet) (c : Nat) (p : String) (d : Nat) :
    (s.deliver c p).bucket d =
      if s.hasClient c = true ∧ c = d then s.bucket d ++ [p] else s.bucket d := by
  by_cases h : s.hasClient c = true
  · rw [deliver_of_hasClient h]
    have hc := hasClient_iff.1 h
    rw [clientCount] at hc
    cases d with
    | zero => rw [if_neg (by omega)]; rfl
    | succ i =>
      rw [bucket_succ, bucket_succ, List.getElem?_modify]
      by_cases hi : c - 1 = i
      · have hlt : i < s.buckets.length := by omega
        rw [if_pos ⟨h, by omega⟩, List.getElem?_eq_getElem hlt]
        simp only [hi, if_true, Option.map_eq_map, Option.map_some, Option.getD_some]
      · rw [if_neg (by omega)]
        simp only [hi, if_false, Option.map_eq_map, Option.map_id']
  · rw [deliver_of_not_hasClient h, if_neg fun hd => h hd.1]

theorem length_flatten_modify (bs : List (List String)) (p : String) {i : Nat}
    (hi : i < bs.length) : (bs.modify i (· ++ [p])).flatten.length = bs.flatten.length + 1 := by
  induction bs generalizing i with
  | nil => exact absurd hi (Nat.not_lt_zero i)
  | cons b bs ih =>
    cases i with
    | zero =>
      rw [List.modify_zero_cons, List.flatten_cons, List.flatten_cons, List.length_append,
        List.length_append, List.length_append, List.length_singleton]
      omega
    | succ i =>
      rw [List.modify_succ_cons, List.flatten_cons, List.flatten_cons, List.length_append,
        List.length_append, ih (Nat.lt_of_succ_lt_succ hi)]
      omega

/-- A delivery counts if it reaches someone. -/
theorem total_deliver (s : BucketSet) (c : Nat) (p : String) :
    (s.deliver c p).total = s.total + if s.hasClient c = true then 1 else 0 := by
  by_cases h : s.hasClient c = true
  · have hc := hasClient_iff.1 h
    rw [clientCount] at hc
    rw [deliver_of_hasClient h, if_pos h]
    exact length_flatten_modify _ _ (by omega)
  · rw [deliver_of_not_hasClient h, if_neg h, Nat.add_zero]

/-! ## Sorting -/

@[simp]
theorem clientCount_normalize (s : BucketSet) : s.normalize.clientCount = s.clientCount :=
  List.length_map _

/-- **Sorting a bucket set sorts each of its buckets.** -/
theorem bucket_normalize (s : BucketSet) (c : Nat) : s.normalize.bucket c = inOrder (s.bucket c) := by
  cases c with
  | zero => exact (List.mergeSort_nil).symm
  | succ i =>
    rw [bucket_succ, bucket_succ, normalize, List.getElem?_map]
    cases s.buckets[i]? with
    | none => exact (List.mergeSort_nil).symm
    | some b => rfl

/-- Sorting again changes nothing. -/
@[simp]
theorem normalize_normalize (s : BucketSet) : s.normalize.normalize = s.normalize := by
  refine ext_bucket (clientCount_normalize _) fun c _ _ => ?_
  rw [bucket_normalize, bucket_normalize]
  exact inOrder_eq_iff.2 (inOrder_perm _)

theorem total_normalize (s : BucketSet) : s.normalize.total = s.total := by
  rw [total, total, normalize, List.length_flatten, List.length_flatten, List.map_map]
  congr 1
  exact List.map_congr_left fun b _ => List.length_mergeSort b

end BucketSet
end Autograder

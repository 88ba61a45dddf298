/-
# Deliveries, one after the other

Deliveries are made to the clients that there are, in the order in which they come, and then the
buckets are sorted. The bucket of a client then holds the payloads of its deliveries
(`bucket_ofDeliveries`), so the order in which they came has no part in the result
(`ofDeliveries_eq_of_perm`), and no delivery to a client that there is goes missing
(`total_ofDeliveries`). A workload asks for one delivery for each message
(`ofWorkload_eq_ofDeliveries`).
-/

import Autograder.Buckets.Output
import Autograder.Proofs.Buckets.Bucket

namespace Autograder

/-- The delivery that a message asks for. -/
def Message.delivery (m : Message) : Delivery := ⟨m.destination, m.payload⟩

/-- The payloads that deliveries bring to a client, in their order. -/
def Delivery.payloadsFor (ds : List Delivery) (c : Nat) : List String :=
  (ds.filter fun d => d.client == c).map Delivery.payload

theorem Delivery.payloadsFor_cons (d : Delivery) (ds : List Delivery) (c : Nat) :
    payloadsFor (d :: ds) c =
      if d.client = c then d.payload :: payloadsFor ds c else payloadsFor ds c := by
  unfold payloadsFor
  rw [List.filter_cons]
  by_cases h : d.client = c
  · rw [if_pos (beq_iff_eq.2 h), if_pos h, List.map_cons]
  · rw [if_neg fun hb => h (beq_iff_eq.1 hb), if_neg h]

theorem Delivery.payloadsFor_append (ds es : List Delivery) (c : Nat) :
    payloadsFor (ds ++ es) c = payloadsFor ds c ++ payloadsFor es c := by
  unfold payloadsFor
  rw [List.filter_append, List.map_append]

theorem Delivery.payloadsFor_perm {ds es : List Delivery} (h : ds.Perm es) (c : Nat) :
    (payloadsFor ds c).Perm (payloadsFor es c) := (h.filter _).map _

/-- The payloads that a workload sends to a client, in its order. -/
def Workload.payloadsFor (w : Workload) (c : Nat) : List String :=
  (w.filter fun m => m.destination == c).map Message.payload

theorem Workload.payloadsFor_eq (w : Workload) (c : Nat) :
    w.payloadsFor c = Delivery.payloadsFor (w.map Message.delivery) c := by
  unfold Workload.payloadsFor Delivery.payloadsFor
  rw [List.filter_map, List.map_map]
  rfl

namespace BucketSet

/-- All deliveries of a list, in its order. -/
def deliverAll (s : BucketSet) (ds : List Delivery) : BucketSet :=
  ds.foldl (fun s d => s.deliver d.client d.payload) s

@[simp]
theorem clientCount_deliverAll (s : BucketSet) (ds : List Delivery) :
    (s.deliverAll ds).clientCount = s.clientCount := by
  induction ds generalizing s with
  | nil => rfl
  | cons d ds ih =>
    rw [deliverAll, List.foldl_cons]
    exact (ih _).trans (clientCount_deliver ..)

/-- **What deliveries add to a bucket**, in the order in which they come. -/
theorem bucket_deliverAll {s : BucketSet} {c : Nat} (hc : s.hasClient c = true)
    (ds : List Delivery) : (s.deliverAll ds).bucket c = s.bucket c ++ Delivery.payloadsFor ds c := by
  induction ds generalizing s with
  | nil => exact (List.append_nil _).symm
  | cons d ds ih =>
    have hstep : (s.deliver d.client d.payload).hasClient c = true := by rwa [hasClient_deliver]
    rw [deliverAll, List.foldl_cons, Delivery.payloadsFor_cons]
    refine (ih hstep).trans ?_
    rw [bucket_deliver]
    by_cases h : d.client = c
    · rw [if_pos ⟨by rwa [h], h⟩, if_pos h, List.append_assoc, List.singleton_append]
    · rw [if_neg fun hand => h hand.2, if_neg h]

theorem total_deliverAll {s : BucketSet} {ds : List Delivery}
    (h : ∀ d ∈ ds, s.hasClient d.client = true) : (s.deliverAll ds).total = s.total + ds.length := by
  induction ds generalizing s with
  | nil => rfl
  | cons d ds ih =>
    have hd : s.hasClient d.client = true := h d (List.mem_cons_self ..)
    have hrest : ∀ e ∈ ds, (s.deliver d.client d.payload).hasClient e.client = true := by
      intro e he
      rw [hasClient_deliver]
      exact h e (List.mem_cons_of_mem _ he)
    rw [deliverAll, List.foldl_cons]
    refine (ih hrest).trans ?_
    rw [total_deliver, if_pos hd, List.length_cons]
    omega

theorem ofDeliveries_eq (n : Nat) (ds : List Delivery) :
    ofDeliveries n ds = ((empty n).deliverAll ds).normalize := rfl

@[simp]
theorem clientCount_ofDeliveries (n : Nat) (ds : List Delivery) :
    (ofDeliveries n ds).clientCount = n := by
  rw [ofDeliveries_eq, clientCount_normalize, clientCount_deliverAll, clientCount_empty]

theorem hasClient_empty_iff {n c : Nat} : (empty n).hasClient c = true ↔ 1 ≤ c ∧ c ≤ n := by
  rw [hasClient_iff, clientCount_empty]

/-- **A bucket holds the payloads of its client, sorted.** -/
theorem bucket_ofDeliveries {n c : Nat} (h₁ : 1 ≤ c) (h₂ : c ≤ n) (ds : List Delivery) :
    (ofDeliveries n ds).bucket c = inOrder (Delivery.payloadsFor ds c) := by
  rw [ofDeliveries_eq, bucket_normalize, bucket_deliverAll (hasClient_empty_iff.2 ⟨h₁, h₂⟩),
    bucket_empty, List.nil_append]

/-- **Equal buckets are the same payloads in any order.** -/
theorem ofDeliveries_eq_iff {n : Nat} {ds es : List Delivery} :
    ofDeliveries n ds = ofDeliveries n es ↔
      ∀ c, 1 ≤ c → c ≤ n → (Delivery.payloadsFor ds c).Perm (Delivery.payloadsFor es c) := by
  constructor
  · intro h c h₁ h₂
    rw [← inOrder_eq_iff, ← bucket_ofDeliveries h₁ h₂, ← bucket_ofDeliveries h₁ h₂, h]
  · intro h
    refine ext_bucket (by simp) fun c h₁ hc => ?_
    have h₂ : c ≤ n := by rwa [clientCount_ofDeliveries] at hc
    rw [bucket_ofDeliveries h₁ h₂, bucket_ofDeliveries h₁ h₂]
    exact inOrder_eq_iff.2 (h c h₁ h₂)

theorem ofDeliveries_eq_of_perm (n : Nat) {ds es : List Delivery} (h : ds.Perm es) :
    ofDeliveries n ds = ofDeliveries n es :=
  ofDeliveries_eq_iff.2 fun c _ _ => Delivery.payloadsFor_perm h c

/-- **Nothing that is delivered to someone is dropped.** -/
theorem total_ofDeliveries {n : Nat} {ds : List Delivery}
    (h : ∀ d ∈ ds, 1 ≤ d.client ∧ d.client ≤ n) : (ofDeliveries n ds).total = ds.length := by
  rw [ofDeliveries_eq, total_normalize,
    total_deliverAll fun d hd => hasClient_empty_iff.2 (h d hd), total_empty, Nat.zero_add]

/-- A message is delivered without regard to its source. -/
theorem ofWorkload_eq_ofDeliveries (n : Nat) (w : Workload) :
    ofWorkload n w = ofDeliveries n (w.map Message.delivery) := by
  rw [ofWorkload, ofDeliveries, List.foldl_map]
  rfl

end BucketSet
end Autograder

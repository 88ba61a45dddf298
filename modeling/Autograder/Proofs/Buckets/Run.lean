/-
# Runs of deliveries and sortings

A bucket set is filled by deliveries, and it may be sorted at any time between them. Some of the
deliveries are accepted, and the account of a bucket set is what these tell of it: how many payloads
it holds, and which of them are in each bucket, up to their order (`Accounts`). Each operation keeps
the account (`Accounts.perform`), so it is right after any run (`Accounts.run`). Sorting forgets the
order of the payloads and nothing else, so a sorted bucket set is known from the deliveries that
were accepted, however often it was sorted before (`Accounts.normalize_eq`).
-/

import Autograder.Proofs.Buckets.Delivery

namespace Autograder
namespace BucketSet

/-- Something that is done to a bucket set. -/
inductive Operation where
  | deliver (delivery : Delivery)
  | normalize
  deriving DecidableEq, Repr

/-- The bucket set after an operation. -/
def perform (s : BucketSet) : Operation → BucketSet
  | .deliver d => s.deliver d.client d.payload
  | .normalize => s.normalize

/-- The delivery of an operation, if the bucket set accepts it. -/
def acceptedBy (s : BucketSet) : Operation → List Delivery
  | .deliver d => if (s.deliver? d.client d.payload).isSome then [d] else []
  | .normalize => []

/-- The bucket set after operations, one after the other. -/
def run (s : BucketSet) : List Operation → BucketSet
  | [] => s
  | op :: ops => run (s.perform op) ops

/-- The deliveries among operations that are accepted, each by the bucket set that it finds. -/
def accepted (s : BucketSet) : List Operation → List Delivery
  | [] => []
  | op :: ops => s.acceptedBy op ++ accepted (s.perform op) ops

/-- What some deliveries tell of a bucket set of `n` clients that has accepted them. -/
structure Accounts (n : Nat) (ds : List Delivery) (s : BucketSet) : Prop where
  clientCount : s.clientCount = n
  total : s.total = ds.length
  bucket : ∀ c, (s.bucket c).Perm (Delivery.payloadsFor ds c)

variable {n : Nat} {ds es : List Delivery} {s t : BucketSet}

theorem accounts_empty (n : Nat) : Accounts n [] (empty n) where
  clientCount := clientCount_empty n
  total := total_empty n
  bucket c := by
    rw [bucket_empty]
    exact .refl _

/-! ## One operation -/

theorem Accounts.normalize (h : Accounts n ds s) : Accounts n ds s.normalize where
  clientCount := (clientCount_normalize s).trans h.clientCount
  total := (total_normalize s).trans h.total
  bucket c := by
    rw [bucket_normalize]
    exact (inOrder_perm _).trans (h.bucket c)

theorem Accounts.deliver (h : Accounts n ds s) {d : Delivery} (hd : s.hasClient d.client = true) :
    Accounts n (ds ++ [d]) (s.deliver d.client d.payload) where
  clientCount := (clientCount_deliver ..).trans h.clientCount
  total := by
    rw [total_deliver, if_pos hd, h.total, List.length_append, List.length_singleton]
  bucket c := by
    have hone : Delivery.payloadsFor [d] c = if d.client = c then [d.payload] else [] :=
      Delivery.payloadsFor_cons d [] c
    rw [bucket_deliver, Delivery.payloadsFor_append, hone]
    by_cases hc : d.client = c
    · rw [if_pos ⟨hd, hc⟩, if_pos hc]
      exact (h.bucket c).append_right _
    · rw [if_neg fun hand => hc hand.2, if_neg hc, List.append_nil]
      exact h.bucket c

/-- **Each operation keeps the account.** -/
theorem Accounts.perform (h : Accounts n ds s) (op : Operation) :
    Accounts n (ds ++ s.acceptedBy op) (s.perform op) := by
  cases op with
  | normalize =>
    rw [acceptedBy, List.append_nil]
    exact h.normalize
  | deliver d =>
    rw [acceptedBy, isSome_deliver?, BucketSet.perform]
    by_cases hd : s.hasClient d.client = true
    · rw [if_pos hd]
      exact h.deliver hd
    · rw [if_neg hd, List.append_nil, deliver_of_not_hasClient hd]
      exact h

/-! ## Runs -/

/-- **The account is right after any run.** -/
theorem Accounts.run (h : Accounts n ds s) (ops : List Operation) :
    Accounts n (ds ++ s.accepted ops) (s.run ops) := by
  induction ops generalizing ds s with
  | nil =>
    rw [accepted, List.append_nil]
    exact h
  | cons op ops ih =>
    rw [accepted, ← List.append_assoc]
    exact ih (h.perform op)

/-- **A sorted bucket set is known from the deliveries that it accepted**, in any order. -/
theorem Accounts.normalize_eq (hs : Accounts n ds s) (ht : Accounts n es t)
    (h : ∀ c, 1 ≤ c → c ≤ n → (Delivery.payloadsFor ds c).Perm (Delivery.payloadsFor es c)) :
    s.normalize = t.normalize := by
  have hcount : s.normalize.clientCount = t.normalize.clientCount := by
    rw [clientCount_normalize, clientCount_normalize, hs.clientCount, ht.clientCount]
  refine ext_bucket hcount fun c h₁ h₂ => ?_
  rw [clientCount_normalize, hs.clientCount] at h₂
  rw [bucket_normalize, bucket_normalize, inOrder_eq_iff]
  exact (hs.bucket c).trans ((h c h₁ h₂).trans (ht.bucket c).symm)

/-- What operations do to a bucket set of `n` clients: it accepts a delivery to one of them and is
not changed by any other, a delivery leaves the buckets of the other clients alone, and sorting it
sorts each bucket and is done once and for all. -/
structure Behaves (n : Nat) (s : BucketSet) : Prop where
  isSome_deliver?_iff : ∀ c p, (s.deliver? c p).isSome = true ↔ 1 ≤ c ∧ c ≤ n
  refused : ∀ c p, s.deliver? c p = none → s.deliver c p = s
  others : ∀ c p d, d ≠ c → (s.deliver c p).bucket d = s.bucket d
  outside : ∀ c, ¬(1 ≤ c ∧ c ≤ n) → s.bucket c = []
  sorted : ∀ c, (s.normalize.bucket c).Pairwise fun x y => x ≤ y
  sortedOnce : s.normalize.normalize = s.normalize

theorem behaves (s : BucketSet) : Behaves s.clientCount s where
  isSome_deliver?_iff c p := by rw [isSome_deliver?, hasClient_iff]
  refused c p h := by rw [BucketSet.deliver, h, Option.getD_none]
  others c p d h := by rw [bucket_deliver, if_neg fun hand => h hand.2.symm]
  outside c h := bucket_of_not_hasClient fun hc => h (hasClient_iff.1 hc)
  sorted c := by
    rw [bucket_normalize]
    exact pairwise_inOrder _
  sortedOnce := normalize_normalize s

/-- **Bucket sets over whole runs.** After any deliveries and sortings, the deliveries that were
accepted account for the bucket set, and it behaves as one of its number of clients. Two runs that
accepted the same payloads for each client, in any order and sorted at any time, come to the same
sorted bucket set. -/
theorem run_keeps_accounts (n : Nat) (ops : List Operation) :
    Accounts n ((empty n).accepted ops) ((empty n).run ops) ∧
      Behaves n ((empty n).run ops) ∧
      ∀ ops', (∀ c, 1 ≤ c → c ≤ n →
          (Delivery.payloadsFor ((empty n).accepted ops) c).Perm
            (Delivery.payloadsFor ((empty n).accepted ops') c)) →
        ((empty n).run ops).normalize = ((empty n).run ops').normalize := by
  have haccounts (ops : List Operation) :
      Accounts n ((empty n).accepted ops) ((empty n).run ops) := (accounts_empty n).run ops
  refine ⟨haccounts ops, ?_, fun ops' h => (haccounts ops).normalize_eq (haccounts ops') h⟩
  have hbehaves := behaves ((empty n).run ops)
  rwa [(haccounts ops).clientCount] at hbehaves

/-- Three payloads for the second of two clients, in two orders and with sortings between them;
deliveries to clients 0 and 3 are refused. -/
theorem run_keeps_accounts_twice :
    let ops : List Operation := [.deliver ⟨2, "b"⟩, .normalize, .deliver ⟨3, "x"⟩,
      .deliver ⟨2, "a"⟩, .deliver ⟨2, "b"⟩]
    let ops' : List Operation := [.deliver ⟨2, "b"⟩, .deliver ⟨2, "b"⟩, .deliver ⟨0, "y"⟩,
      .deliver ⟨2, "a"⟩, .normalize]
    (empty 2).accepted ops = [⟨2, "b"⟩, ⟨2, "a"⟩, ⟨2, "b"⟩] ∧
      (empty 2).accepted ops' = [⟨2, "b"⟩, ⟨2, "b"⟩, ⟨2, "a"⟩] ∧
      ((empty 2).run ops).total = 3 ∧
      ((empty 2).run ops).normalize = ((empty 2).run ops').normalize := by
  intro ops ops'
  have haccepted : (empty 2).accepted ops = [⟨2, "b"⟩, ⟨2, "a"⟩, ⟨2, "b"⟩] := rfl
  have haccepted' : (empty 2).accepted ops' = [⟨2, "b"⟩, ⟨2, "b"⟩, ⟨2, "a"⟩] := rfl
  obtain ⟨haccounts, -, hsame⟩ := run_keeps_accounts 2 ops
  refine ⟨haccepted, haccepted', haccounts.total, hsame ops' fun c h₁ h₂ => ?_⟩
  rw [haccepted, haccepted']
  exact Delivery.payloadsFor_perm (by decide) c

end BucketSet
end Autograder

/-
# Faults in the delivery of one payload

An output that agrees with a workload is changed in one of its lines: the line is left out or
repeated, or its payload or its destination is replaced. Each of these faults is found, and the
difference that is reported tells which client it happened to (`firstMismatch?_of_fault`). A line
more or less shows in the size of a bucket. A payload that is replaced shows where the two buckets,
both sorted, part: there the smaller of the two payloads stands in the bucket that holds it
(`exists_inOrder_cons_of_lt`).
-/

import Autograder.Proofs.Buckets.FirstMismatch
import Mathlib.Data.String.Basic

namespace Autograder

theorem Delivery.payloadsFor_cons_self (c : Nat) (p : String) (ds : List Delivery) :
    payloadsFor (⟨c, p⟩ :: ds) c = p :: payloadsFor ds c := by
  rw [payloadsFor_cons, if_pos rfl]

theorem Delivery.payloadsFor_cons_of_ne {c e : Nat} (h : c ≠ e) (p : String)
    (ds : List Delivery) : payloadsFor (⟨c, p⟩ :: ds) e = payloadsFor ds e := by
  rw [payloadsFor_cons, if_neg h]

/-- The line that names a client and a payload. -/
theorem Delivery.ofLine?_eq_some {destination payload : List Char} {c : Nat} {p : String}
    (hcolon : ':' ∉ destination)
    (hclient : Text.readNat? Text.maxUInt32 (Text.trim destination) = some c)
    (hp : String.ofList (Text.trim payload) = p) :
    ofLine? (destination ++ ':' :: payload) = some ⟨c, p⟩ := by
  rw [ofLine?_append_cons hcolon, hclient, Option.map_some, hp]

namespace BucketSet

/-! ## Lines -/

/-- An output delivers what its lines deliver; an empty line delivers nothing. -/
theorem delivered_eq (stdout : String) :
    delivered stdout = (Text.lines stdout.toList).filterMap Delivery.ofLine? := by
  rw [delivered, outputLines, List.filterMap_filter]
  congr 1
  funext l
  cases l <;> rfl

/-- **An output with other lines is read too**, if what is new in it delivers something. -/
theorem readOutput_of_edit {n : Nat} {stdout stdout' : String} {s : BucketSet}
    {ls : List (List Char)} (hs : readOutput n stdout = .ok s)
    (hlines : Text.lines stdout'.toList = ls)
    (hnew : ∀ l ∈ ls, l ∈ Text.lines stdout.toList ∨ IsDelivery n l) :
    readOutput n stdout' = .ok (ofDeliveries n (ls.filterMap Delivery.ofLine?)) := by
  rw [readOutput_eq_ok_iff, delivered_eq, hlines]
  refine ⟨fun l hl => ?_, rfl⟩
  rw [outputLines, hlines, List.mem_filter] at hl
  rcases hnew l hl.1 with hold | hnew
  · exact (readOutput_eq_ok_iff.1 hs).1 l (List.mem_filter.2 ⟨hold, hl.2⟩)
  · exact hnew

/-- A line delivers the same wherever it stands. -/
theorem filterMap_ofLine?_perm {before after : List (List Char)} {l : List Char} {d : Delivery}
    (h : Delivery.ofLine? l = some d) :
    ((before ++ l :: after).filterMap Delivery.ofLine?).Perm
      (d :: (before ++ after).filterMap Delivery.ofLine?) := by
  have hmiddle : (before ++ l :: after).Perm (l :: (before ++ after)) := List.perm_middle
  rw [← List.filterMap_cons_some h]
  exact hmiddle.filterMap Delivery.ofLine?

/-- One line among others that were in an output already. -/
theorem readOutput_of_line {n : Nat} {stdout stdout' : String} {s : BucketSet}
    {before after : List (List Char)} {l : List Char} {d : Delivery}
    (hs : readOutput n stdout = .ok s)
    (hlines : Text.lines stdout'.toList = before ++ l :: after)
    (hold : ∀ k ∈ before ++ after, k ∈ Text.lines stdout.toList)
    (hl : Delivery.ofLine? l = some d) (h₁ : 1 ≤ d.client) (h₂ : d.client ≤ n) :
    readOutput n stdout' =
      .ok (ofDeliveries n (d :: (before ++ after).filterMap Delivery.ofLine?)) := by
  rw [← ofDeliveries_eq_of_perm n (filterMap_ofLine?_perm hl)]
  refine readOutput_of_edit hs hlines fun k hk => ?_
  rcases List.mem_cons.1 (List.perm_middle.subset hk) with rfl | hk
  · exact .inr ⟨d, hl, h₁, h₂⟩
  · exact .inl (hold k hk)

/-- A line of an output that agrees with a workload stands for one of the payloads to be
delivered. -/
theorem ofWorkload_eq_of_line {n : Nat} {w : Workload} {stdout : String} {s : BucketSet}
    {before after : List (List Char)} {l : List Char} {d : Delivery}
    (hs : readOutput n stdout = .ok s) (hagrees : (ofWorkload n w).agrees s = true)
    (hlines : Text.lines stdout.toList = before ++ l :: after)
    (hl : Delivery.ofLine? l = some d) :
    1 ≤ d.client ∧ d.client ≤ n ∧
      ofWorkload n w = ofDeliveries n (d :: (before ++ after).filterMap Delivery.ofLine?) := by
  obtain ⟨hall, hread⟩ := readOutput_eq_ok_iff.1 hs
  have hmem : d ∈ delivered stdout := by
    rw [delivered_eq, hlines]
    exact (filterMap_ofLine?_perm hl).symm.subset List.mem_cons_self
  obtain ⟨h₁, h₂⟩ := client_mem_of_mem_delivered hall d hmem
  refine ⟨h₁, h₂, ?_⟩
  rw [agrees_iff.1 hagrees, hread, delivered_eq, hlines]
  exact ofDeliveries_eq_of_perm n (filterMap_ofLine?_perm hl)

/-! ## Payloads too many or too few -/

variable {n : Nat} {ds es : List Delivery}

theorem length_bucket_ofDeliveries {c : Nat} (h₁ : 1 ≤ c) (h₂ : c ≤ n) (ds : List Delivery) :
    ((ofDeliveries n ds).bucket c).length = (Delivery.payloadsFor ds c).length := by
  rw [bucket_ofDeliveries h₁ h₂, length_inOrder]

/-- **The first client that gets more or fewer payloads is reported**, with both numbers. -/
theorem firstMismatch?_of_length_ne {c k j : Nat} (h₁ : 1 ≤ c) (h₂ : c ≤ n)
    (hbelow : ∀ e, 1 ≤ e → e < c →
      (Delivery.payloadsFor ds e).Perm (Delivery.payloadsFor es e))
    (hk : (Delivery.payloadsFor ds c).length = k) (hj : (Delivery.payloadsFor es c).length = j)
    (hne : k ≠ j) :
    firstMismatch? (ofDeliveries n ds) (ofDeliveries n es) = some (.count c k j) := by
  refine firstMismatch?_of_bucket (by simp) h₁ (by simpa using h₂) (fun e he hlt => ?_) ?_
  · have hle : e ≤ n := by omega
    rw [bucket_ofDeliveries he hle, bucket_ofDeliveries he hle]
    exact inOrder_eq_iff.2 (hbelow e he hlt)
  · rw [← length_bucket_ofDeliveries h₁ h₂] at hk hj
    subst hk hj
    exact Mismatch.ofBuckets?_of_length_ne hne c

/-- A delivery that is left out. -/
theorem firstMismatch?_lost {c : Nat} (h₁ : 1 ≤ c) (h₂ : c ≤ n) (x : String)
    (rest : List Delivery) :
    firstMismatch? (ofDeliveries n (⟨c, x⟩ :: rest)) (ofDeliveries n rest) =
      some (.count c ((Delivery.payloadsFor rest c).length + 1)
        (Delivery.payloadsFor rest c).length) := by
  refine firstMismatch?_of_length_ne h₁ h₂ (fun e _ hlt => ?_) ?_ rfl (by omega)
  · rw [Delivery.payloadsFor_cons_of_ne (by omega)]
  · rw [Delivery.payloadsFor_cons_self, List.length_cons]

/-- A delivery that is made once more. -/
theorem firstMismatch?_repeated {c : Nat} (h₁ : 1 ≤ c) (h₂ : c ≤ n) (x : String)
    (ds : List Delivery) :
    firstMismatch? (ofDeliveries n ds) (ofDeliveries n (⟨c, x⟩ :: ds)) =
      some (.count c (Delivery.payloadsFor ds c).length
        ((Delivery.payloadsFor ds c).length + 1)) := by
  refine firstMismatch?_of_length_ne h₁ h₂ (fun e _ hlt => ?_) rfl ?_ (by omega)
  · rw [Delivery.payloadsFor_cons_of_ne (by omega)]
  · rw [Delivery.payloadsFor_cons_self, List.length_cons]

/-- A delivery that is made to another client: the first of the two clients is reported. -/
theorem firstMismatch?_misdirected {c d : Nat} (hc₁ : 1 ≤ c) (hc₂ : c ≤ n) (hd₁ : 1 ≤ d)
    (hd₂ : d ≤ n) (x : String) (rest : List Delivery) :
    (c < d → firstMismatch? (ofDeliveries n (⟨c, x⟩ :: rest)) (ofDeliveries n (⟨d, x⟩ :: rest)) =
      some (.count c ((Delivery.payloadsFor rest c).length + 1)
        (Delivery.payloadsFor rest c).length)) ∧
    (d < c → firstMismatch? (ofDeliveries n (⟨c, x⟩ :: rest)) (ofDeliveries n (⟨d, x⟩ :: rest)) =
      some (.count d (Delivery.payloadsFor rest d).length
        ((Delivery.payloadsFor rest d).length + 1))) := by
  have hbelow (e : Nat) (hec : e < c) (hed : e < d) :
      (Delivery.payloadsFor (⟨c, x⟩ :: rest) e).Perm
        (Delivery.payloadsFor (⟨d, x⟩ :: rest) e) := by
    rw [Delivery.payloadsFor_cons_of_ne (by omega), Delivery.payloadsFor_cons_of_ne (by omega)]
  constructor
  · intro hlt
    refine firstMismatch?_of_length_ne hc₁ hc₂ (fun e _ he => hbelow e he (by omega)) ?_ ?_
      (by omega)
    · rw [Delivery.payloadsFor_cons_self, List.length_cons]
    · rw [Delivery.payloadsFor_cons_of_ne (by omega)]
  · intro hlt
    refine firstMismatch?_of_length_ne hd₁ hd₂ (fun e _ he => hbelow e (by omega) he) ?_ ?_
      (by omega)
    · rw [Delivery.payloadsFor_cons_of_ne (by omega)]
    · rw [Delivery.payloadsFor_cons_self, List.length_cons]

/-! ## A payload in the place of another -/

/-- **Where two sorted buckets part** that differ in one payload: the smaller of the two payloads
stands there, and the other bucket goes on with a larger one. -/
theorem exists_inOrder_cons_of_lt {x y : String} (h : x < y) (r : List String) :
    ∃ same rest z rest', inOrder (x :: r) = same ++ x :: rest ∧
      inOrder (y :: r) = same ++ z :: rest' ∧ x < z := by
  -- The payloads up to `x` come first in both buckets.
  set low := r.filter fun p => decide (p ≤ x) with hlow
  set high := r.filter fun p => !decide (p ≤ x) with hhigh
  have hr : (low ++ high).Perm r := List.filter_append_perm _ r
  have hlow_le : ∀ p ∈ low, p ≤ x := fun p hp => by
    rw [hlow, List.mem_filter, decide_eq_true_eq] at hp
    exact hp.2
  have hlt_high : ∀ p ∈ high, x < p := fun p hp => by
    rw [hhigh, List.mem_filter, Bool.not_eq_true', decide_eq_false_iff_not, not_le] at hp
    exact hp.2
  have hinsert (z : String) (hz : x ≤ z) :
      inOrder (z :: r) = inOrder low ++ inOrder (z :: high) := by
    rw [← inOrder_append fun p hp q hq => ?_]
    · exact inOrder_eq_iff.2 ((hr.symm.cons z).trans List.perm_middle.symm)
    · rcases List.mem_cons.1 hq with rfl | hq
      · exact (hlow_le p hp).trans hz
      · exact (hlow_le p hp).trans (hlt_high q hq).le
  have hx : inOrder (x :: high) = x :: inOrder high := by
    have happend : inOrder ([x] ++ high) = inOrder [x] ++ inOrder high :=
      inOrder_append fun p hp q hq => by
        rw [List.mem_singleton.1 hp]
        exact (hlt_high q hq).le
    rwa [show inOrder [x] = [x] from List.mergeSort_singleton x] at happend
  obtain ⟨z, rest', hy⟩ : ∃ z rest', inOrder (y :: high) = z :: rest' :=
    List.exists_cons_of_length_pos (by rw [length_inOrder]; exact Nat.succ_pos _)
  refine ⟨inOrder low, inOrder high, z, rest', ?_, ?_, ?_⟩
  · rw [hinsert x le_rfl, hx]
  · rw [hinsert y h.le, hy]
  · have hz : z ∈ y :: high := (inOrder_perm _).subset (by rw [hy]; exact List.mem_cons_self)
    rcases List.mem_cons.1 hz with rfl | hz
    · exact h
    · exact hlt_high z hz

/-- Of two payloads, the smaller one stands where the sorted buckets part. -/
theorem exists_inOrder_cons_of_ne {x y : String} (h : y ≠ x) (r : List String) :
    ∃ same want wants got gots, inOrder (x :: r) = same ++ want :: wants ∧
      inOrder (y :: r) = same ++ got :: gots ∧ want ≠ got ∧ (y < x → got = y) ∧
      (x < y → want = x) := by
  rcases lt_or_gt_of_ne h with hlt | hlt
  · obtain ⟨same, gots, want, wants, hgot, hwant, hlt'⟩ := exists_inOrder_cons_of_lt hlt r
    exact ⟨same, want, wants, y, gots, hwant, hgot, hlt'.ne', fun _ => rfl,
      fun hxy => absurd hxy hlt.asymm⟩
  · obtain ⟨same, wants, got, gots, hwant, hgot, hlt'⟩ := exists_inOrder_cons_of_lt hlt r
    exact ⟨same, x, wants, got, gots, hwant, hgot, hlt'.ne, fun hyx => absurd hyx hlt.asymm,
      fun _ => rfl⟩

/-- A delivery with another payload. -/
theorem firstMismatch?_replaced {c : Nat} (h₁ : 1 ≤ c) (h₂ : c ≤ n) {x y : String} (h : y ≠ x)
    (rest : List Delivery) :
    ∃ same want wants got gots,
      (ofDeliveries n (⟨c, x⟩ :: rest)).bucket c = same ++ want :: wants ∧
      (ofDeliveries n (⟨c, y⟩ :: rest)).bucket c = same ++ got :: gots ∧ want ≠ got ∧
      firstMismatch? (ofDeliveries n (⟨c, x⟩ :: rest)) (ofDeliveries n (⟨c, y⟩ :: rest)) =
        some (.payload c same.length want got) ∧
      (y < x → got = y) ∧ (x < y → want = x) := by
  have hbucket (z : String) : (ofDeliveries n (⟨c, z⟩ :: rest)).bucket c =
      inOrder (z :: Delivery.payloadsFor rest c) := by
    rw [bucket_ofDeliveries h₁ h₂, Delivery.payloadsFor_cons_self]
  obtain ⟨same, want, wants, got, gots, hwant, hgot, hne, hsmaller⟩ :=
    exists_inOrder_cons_of_ne h (Delivery.payloadsFor rest c)
  have hlength : wants.length = gots.length := by
    have hx := congrArg List.length hwant
    have hy := congrArg List.length hgot
    rw [length_inOrder, List.length_append, List.length_cons, List.length_cons] at hx hy
    omega
  refine ⟨same, want, wants, got, gots, (hbucket x).trans hwant, (hbucket y).trans hgot, hne,
    ?_, hsmaller⟩
  refine firstMismatch?_of_bucket (by simp) h₁ (by simpa using h₂) (fun e he hlt => ?_) ?_
  · have hle : e ≤ n := by omega
    rw [bucket_ofDeliveries he hle, bucket_ofDeliveries he hle,
      Delivery.payloadsFor_cons_of_ne (by omega), Delivery.payloadsFor_cons_of_ne (by omega)]
  · rw [hbucket, hbucket, hwant, hgot]
    exact Mismatch.ofBuckets?_append hne hlength c

/-! ## Faults -/

/-- **A fault in one line is found, and reported of the client that it happened to.** Let an output
agree with a workload, and let one of its lines deliver the payload `x` to client `c`, whose bucket
should hold `k` payloads. Without the line the client has one payload less. With a copy of the line
somewhere it has one more. With another payload `y` in the line the buckets of the client differ
where they part, and the smaller of `x` and `y` is shown. With another client in the line the first
of the two is reported, which has one payload less or more. -/
theorem firstMismatch?_of_fault {n c k : Nat} {w : Workload} {stdout x : String} {s : BucketSet}
    {before after : List (List Char)} {destination payload : List Char}
    (hs : readOutput n stdout = .ok s) (hagrees : (ofWorkload n w).agrees s = true)
    (hlines : Text.lines stdout.toList = before ++ (destination ++ ':' :: payload) :: after)
    (hcolon : ':' ∉ destination)
    (hclient : Text.readNat? Text.maxUInt32 (Text.trim destination) = some c)
    (hx : String.ofList (Text.trim payload) = x) (hk : ((ofWorkload n w).bucket c).length = k) :
    0 < k ∧
      (∀ stdout', Text.lines stdout'.toList = before ++ after →
        ∃ actual, readOutput n stdout' = .ok actual ∧
          firstMismatch? (ofWorkload n w) actual = some (.count c k (k - 1))) ∧
      (∀ stdout' before' after',
        before' ++ after' = before ++ (destination ++ ':' :: payload) :: after →
        Text.lines stdout'.toList = before' ++ (destination ++ ':' :: payload) :: after' →
        ∃ actual, readOutput n stdout' = .ok actual ∧
          firstMismatch? (ofWorkload n w) actual = some (.count c k (k + 1))) ∧
      (∀ stdout' payload' y, String.ofList (Text.trim payload') = y → y ≠ x →
        Text.lines stdout'.toList = before ++ (destination ++ ':' :: payload') :: after →
        ∃ actual same want wants got gots, readOutput n stdout' = .ok actual ∧
          (ofWorkload n w).bucket c = same ++ want :: wants ∧
          actual.bucket c = same ++ got :: gots ∧ want ≠ got ∧
          firstMismatch? (ofWorkload n w) actual = some (.payload c same.length want got) ∧
          (y < x → got = y) ∧ (x < y → want = x)) ∧
      ∀ stdout' destination' d, ':' ∉ destination' →
        Text.readNat? Text.maxUInt32 (Text.trim destination') = some d → 1 ≤ d → d ≤ n → d ≠ c →
        Text.lines stdout'.toList = before ++ (destination' ++ ':' :: payload) :: after →
        ∃ actual, readOutput n stdout' = .ok actual ∧
          (c < d → firstMismatch? (ofWorkload n w) actual = some (.count c k (k - 1))) ∧
          (d < c → firstMismatch? (ofWorkload n w) actual =
            some (.count d ((ofWorkload n w).bucket d).length
              (((ofWorkload n w).bucket d).length + 1))) := by
  have hfault := Delivery.ofLine?_eq_some hcolon hclient hx
  have hothers : ∀ l ∈ before ++ after, l ∈ Text.lines stdout.toList := fun l hl => by
    rw [hlines]
    exact List.perm_middle.symm.subset (List.mem_cons_of_mem _ hl)
  obtain ⟨h₁, h₂, hexpected⟩ := ofWorkload_eq_of_line hs hagrees hlines hfault
  set rest := (before ++ after).filterMap Delivery.ofLine? with hrest
  have hsize : (Delivery.payloadsFor rest c).length + 1 = k := by
    rw [← hk, hexpected, length_bucket_ofDeliveries h₁ h₂, Delivery.payloadsFor_cons_self,
      List.length_cons]
  have hless : (Delivery.payloadsFor rest c).length = k - 1 := by omega
  rw [hexpected]
  refine ⟨by omega, fun stdout' hlines' => ?_, fun stdout' before' after' hsame hlines' => ?_,
    fun stdout' payload' y hy hne hlines' => ?_,
    fun stdout' destination' d hcolon' hclient' hd₁ hd₂ hne hlines' => ?_⟩
  · refine ⟨_, readOutput_of_edit hs hlines' fun l hl => .inl (hothers l hl), ?_⟩
    rw [← hrest, firstMismatch?_lost h₁ h₂, hsize, hless]
  · have hothers' : ∀ l ∈ before' ++ after', l ∈ Text.lines stdout.toList := by
      rw [hsame, hlines]
      exact fun _ hl => hl
    refine ⟨_, readOutput_of_line hs hlines' hothers' hfault h₁ h₂, ?_⟩
    rw [hsame, ofDeliveries_eq_of_perm n ((filterMap_ofLine?_perm hfault).cons ⟨c, x⟩),
      ← hrest, firstMismatch?_repeated h₁ h₂, Delivery.payloadsFor_cons_self, List.length_cons,
      hsize]
  · have hnew := Delivery.ofLine?_eq_some hcolon hclient hy
    obtain ⟨same, want, wants, got, gots, hwant, hgot, hpart⟩ :=
      firstMismatch?_replaced h₁ h₂ hne rest
    exact ⟨_, same, want, wants, got, gots,
      readOutput_of_line hs hlines' hothers hnew h₁ h₂, hwant, hgot, hpart⟩
  · have hnew := Delivery.ofLine?_eq_some hcolon' hclient' hx
    obtain ⟨hlost, hextra⟩ := firstMismatch?_misdirected h₁ h₂ hd₁ hd₂ x rest
    refine ⟨_, readOutput_of_line hs hlines' hothers hnew hd₁ hd₂, fun hlt => ?_, fun hlt => ?_⟩
    · rw [← hrest, hlost hlt, hsize, hless]
    · rw [← hrest, hextra hlt, length_bucket_ofDeliveries hd₁ hd₂,
        Delivery.payloadsFor_cons_of_ne hne.symm]

/-- Three messages, of which one is lost, or repeated at the end, or replaced by a payload that the
client receives anyway, or delivered to the client before. -/
theorem firstMismatch?_of_fault_three :
    let w : Workload := [⟨1, 2, "a"⟩, ⟨2, 1, "hi"⟩, ⟨1, 2, "b"⟩]
    readOutput 2 "2: b\r\n1: hi\n\n2:a\n" =
        .ok (ofDeliveries 2 [⟨2, "b"⟩, ⟨1, "hi"⟩, ⟨2, "a"⟩]) ∧
      (ofWorkload 2 w).agrees (ofDeliveries 2 [⟨2, "b"⟩, ⟨1, "hi"⟩, ⟨2, "a"⟩]) = true ∧
      (∃ actual, readOutput 2 "1: hi\n\n2:a\n" = .ok actual ∧
        firstMismatch? (ofWorkload 2 w) actual = some (.count 2 2 1)) ∧
      (∃ actual, readOutput 2 "2: b\n1: hi\n\n2:a\n2: b" = .ok actual ∧
        firstMismatch? (ofWorkload 2 w) actual = some (.count 2 2 3)) ∧
      (∃ actual position want, readOutput 2 "2:a\t\r\n1: hi\n\n2:a\n" = .ok actual ∧
        firstMismatch? (ofWorkload 2 w) actual = some (.payload 2 position want "a")) ∧
      ∃ actual, readOutput 2 "+1: b\n1: hi\n\n2:a\n" = .ok actual ∧
        firstMismatch? (ofWorkload 2 w) actual = some (.count 1 1 2) := by
  intro w
  have hs : readOutput 2 "2: b\r\n1: hi\n\n2:a\n" =
      .ok (ofDeliveries 2 [⟨2, "b"⟩, ⟨1, "hi"⟩, ⟨2, "a"⟩]) := rfl
  have hsize (c : Nat) (h₁ : 1 ≤ c) (h₂ : c ≤ 2) :
      ((ofWorkload 2 w).bucket c).length = (w.payloadsFor c).length := by
    rw [ofWorkload_eq_ofDeliveries, length_bucket_ofDeliveries h₁ h₂, Workload.payloadsFor_eq]
  have hagrees : (ofWorkload 2 w).agrees
      (ofDeliveries 2 [⟨2, "b"⟩, ⟨1, "hi"⟩, ⟨2, "a"⟩]) = true := by
    rw [agrees_iff, ofWorkload_eq_ofDeliveries]
    exact ofDeliveries_eq_of_perm 2 (by decide)
  have hlines : Text.lines "2: b\r\n1: hi\n\n2:a\n".toList =
      [] ++ (['2'] ++ ':' :: " b".toList) :: ["1: hi".toList, [], "2:a".toList] := rfl
  obtain ⟨-, hlost, hrepeated, hreplaced, hmisdirected⟩ :=
    firstMismatch?_of_fault hs hagrees hlines (by decide) rfl rfl
      (hsize 2 (by decide) (by decide))
  refine ⟨hs, hagrees, hlost _ rfl, hrepeated _ ["2: b".toList, "1: hi".toList, [], "2:a".toList] []
    rfl rfl, ?_, ?_⟩
  · obtain ⟨actual, same, want, _, got, _, hread, -, -, -, hfound, hsmaller, -⟩ :=
      hreplaced "2:a\t\r\n1: hi\n\n2:a\n" "a\t".toList "a" rfl (by decide) rfl
    rw [hsmaller (by decide)] at hfound
    exact ⟨actual, same.length, want, hread, hfound⟩
  · obtain ⟨actual, hread, -, hextra⟩ := hmisdirected "+1: b\n1: hi\n\n2:a\n" "+1".toList 1
      (by decide) rfl (by decide) (by decide) (by decide) rfl
    have hfound := hextra (by decide)
    rw [hsize 1 (by decide) (by decide)] at hfound
    exact ⟨actual, hread, hfound⟩

end BucketSet
end Autograder

/-
# When two bucket sets agree

The search for a first difference finds none if and only if there is none (`agrees_iff`). So a
workload and an output agree if and only if each client gets the payloads that are sent to it, each
as often as it is sent (`agrees_iff_perm`). The sources of the messages, their order and the order
of the lines of the output have no part in it.
-/

import Autograder.Buckets.Mismatch
import Autograder.Proofs.Buckets.Output

namespace Autograder
namespace Mismatch

/-- Lists of the same length differ where a difference is found. -/
theorem firstDifference?_eq_none_iff {want got : List String} (h : want.length = got.length)
    (k : Nat) : firstDifference? k want got = none ↔ want = got := by
  induction want generalizing got k with
  | nil =>
    have hgot : got = [] := List.length_eq_zero_iff.1 h.symm
    rw [hgot]
    exact ⟨fun _ => rfl, fun _ => rfl⟩
  | cons x xs ih =>
    cases got with
    | nil => cases h
    | cons y ys =>
      rw [firstDifference?]
      by_cases hxy : x = y
      · rw [if_pos hxy, ih (Nat.succ.inj h), List.cons.injEq]
        exact ⟨fun hs => ⟨hxy, hs⟩, fun hs => hs.2⟩
      · rw [if_neg hxy, List.cons.injEq]
        constructor
        · intro hs
          cases hs
        · rintro ⟨hs, -⟩
          exact absurd hs hxy

theorem ofBuckets?_eq_none_iff {c : Nat} {want got : List String} :
    ofBuckets? c want got = none ↔ want = got := by
  unfold ofBuckets?
  by_cases h : want.length = got.length
  · rw [if_neg (not_not_intro h), Option.map_eq_none_iff]
    exact firstDifference?_eq_none_iff h 0
  · rw [if_pos h]
    constructor
    · intro hs
      cases hs
    · rintro rfl
      exact absurd rfl h

end Mismatch

namespace BucketSet

/-- The entries are the clients with their buckets. -/
theorem mem_entries_iff {s : BucketSet} {c : Nat} {b : List String} :
    (c, b) ∈ s.entries ↔ s.hasClient c = true ∧ b = s.bucket c := by
  have hentries : (c, b) ∈ s.entries ↔ 1 ≤ c ∧ s.buckets[c - 1]? = some b := by
    rw [entries, List.mem_map, ← List.mk_mem_zipIdx_iff_le_and_getElem?_sub]
    constructor
    · rintro ⟨⟨b', c'⟩, hmem, heq⟩
      obtain ⟨rfl, rfl⟩ := Prod.mk.inj heq
      exact hmem
    · intro hmem
      exact ⟨(b, c), hmem, rfl⟩
  rw [hentries, hasClient_iff, clientCount]
  constructor
  · rintro ⟨h₁, hb⟩
    obtain ⟨hlt, rfl⟩ := List.getElem?_eq_some_iff.1 hb
    refine ⟨⟨h₁, by omega⟩, ?_⟩
    conv_rhs => rw [← Nat.sub_add_cancel h₁]
    rw [bucket_succ, hb, Option.getD_some]
  · rintro ⟨⟨h₁, h₂⟩, rfl⟩
    have hlt : c - 1 < s.buckets.length := by omega
    refine ⟨h₁, ?_⟩
    conv_rhs => rw [← Nat.sub_add_cancel h₁]
    rw [bucket_succ, List.getElem?_eq_getElem hlt, Option.getD_some]

/-- **No difference is found only where there is none.** -/
theorem firstMismatch?_eq_none_iff {s t : BucketSet} : firstMismatch? s t = none ↔ s = t := by
  unfold firstMismatch?
  by_cases hcount : s.clientCount = t.clientCount
  · rw [if_neg (not_not_intro hcount), List.findSome?_eq_none_iff]
    constructor
    · intro h
      refine ext_bucket hcount fun c h₁ h₂ => ?_
      have hmem : (c, s.bucket c) ∈ s.entries := mem_entries_iff.2 ⟨hasClient_iff.2 ⟨h₁, h₂⟩, rfl⟩
      exact Mismatch.ofBuckets?_eq_none_iff.1 (h _ hmem)
    · rintro rfl ⟨c, b⟩ hmem
      exact Mismatch.ofBuckets?_eq_none_iff.2 (mem_entries_iff.1 hmem).2
  · rw [if_pos hcount]
    constructor
    · intro h
      cases h
    · rintro rfl
      exact absurd rfl hcount

theorem agrees_iff {s t : BucketSet} : s.agrees t = true ↔ s = t := by
  rw [agrees, Option.isNone_iff_eq_none, firstMismatch?_eq_none_iff]

/-- What is delivered is what is sent if and only if it is so for each client. -/
theorem ofWorkload_eq_iff {n : Nat} {w : Workload} {ds : List Delivery} :
    ofWorkload n w = ofDeliveries n ds ↔
      ∀ c, 1 ≤ c → c ≤ n → (w.payloadsFor c).Perm (Delivery.payloadsFor ds c) := by
  simp only [ofWorkload_eq_ofDeliveries, ofDeliveries_eq_iff, Workload.payloadsFor_eq]

/-- Nothing that a workload file sends is dropped. -/
theorem total_ofWorkload {n : Nat} {contents : String} {w : Workload}
    (hw : Workload.read n contents = .ok w) : (ofWorkload n w).total = w.length := by
  have hrange : ∀ d ∈ w.map Message.delivery, 1 ≤ d.client ∧ d.client ≤ n := by
    intro d hd
    obtain ⟨m, hm, rfl⟩ := List.mem_map.1 hd
    exact Workload.destination_mem_of_read hw m hm
  rw [ofWorkload_eq_ofDeliveries, total_ofDeliveries hrange, List.length_map]

/-- Nothing that an output delivers is dropped. -/
theorem total_of_readOutput {n : Nat} {stdout : String} {s : BucketSet}
    (h : readOutput n stdout = .ok s) : s.total = (outputLines stdout).length := by
  obtain ⟨hall, rfl⟩ := readOutput_eq_ok_iff.1 h
  rw [total_ofDeliveries (client_mem_of_mem_delivered hall), length_delivered hall]

theorem outputLines_perm {ls ls' : List (List Char)} (h : ls'.Perm ls) (rest : List Char) :
    (outputLines (String.ofList (Text.terminated ls' ++ rest))).Perm
      (outputLines (String.ofList (Text.terminated ls ++ rest))) := by
  unfold outputLines
  rw [String.toList_ofList, String.toList_ofList]
  exact (Text.lines_perm h rest).filter _

/-- **A workload file and an output agree if and only if each client gets what is sent to it**, in
any order. Nothing is dropped on either side. Neither the sources of the messages nor the order of
the messages or of the lines of the output make a difference. -/
theorem agrees_iff_perm {n : Nat} {contents stdout : String} {w : Workload} {s : BucketSet}
    (hw : Workload.read n contents = .ok w) (hs : readOutput n stdout = .ok s) :
    ((ofWorkload n w).agrees s = true ↔
        ∀ c, 1 ≤ c → c ≤ n → (w.payloadsFor c).Perm (receivedBy stdout c)) ∧
      (ofWorkload n w).total = w.length ∧ s.total = (outputLines stdout).length ∧
      (∀ w' : Workload, (w'.map Message.delivery).Perm (w.map Message.delivery) →
        ofWorkload n w' = ofWorkload n w) ∧
      ∀ ls ls' rest, stdout.toList = Text.terminated ls ++ rest → ls'.Perm ls →
        readOutput n (String.ofList (Text.terminated ls' ++ rest)) = .ok s := by
  refine ⟨?_, total_ofWorkload hw, total_of_readOutput hs, fun w' hperm => ?_,
    fun ls ls' rest hout hperm => ?_⟩
  · obtain ⟨-, rfl⟩ := readOutput_eq_ok_iff.1 hs
    rw [agrees_iff]
    exact ofWorkload_eq_iff
  · rw [ofWorkload_eq_ofDeliveries, ofWorkload_eq_ofDeliveries]
    exact ofDeliveries_eq_of_perm n hperm
  · refine readOutput_of_perm hs ?_
    have hlines := outputLines_perm hperm rest
    rwa [← hout, String.ofList_toList] at hlines

/-- Two messages, delivered in the other order and with blanks around them. -/
theorem agrees_two_messages :
    Workload.read 2 "1 2 hi\n2 1  a:b\n" = .ok [⟨1, 2, "hi"⟩, ⟨2, 1, "a:b"⟩] ∧
      readOutput 2 "1:a:b \n\n 2 : hi" = .ok (ofDeliveries 2 [⟨1, "a:b"⟩, ⟨2, "hi"⟩]) ∧
      (ofWorkload 2 [⟨1, 2, "hi"⟩, ⟨2, 1, "a:b"⟩]).agrees
        (ofDeliveries 2 [⟨1, "a:b"⟩, ⟨2, "hi"⟩]) = true := by
  have hw : Workload.read 2 "1 2 hi\n2 1  a:b\n" = .ok [⟨1, 2, "hi"⟩, ⟨2, 1, "a:b"⟩] := rfl
  have hs : readOutput 2 "1:a:b \n\n 2 : hi" = .ok (ofDeliveries 2 [⟨1, "a:b"⟩, ⟨2, "hi"⟩]) := rfl
  refine ⟨hw, hs, (agrees_iff_perm hw hs).1.2 fun c h₁ h₂ => ?_⟩
  obtain rfl | rfl : c = 1 ∨ c = 2 := by omega
  · exact List.Perm.refl ["a:b"]
  · exact List.Perm.refl ["hi"]

end BucketSet
end Autograder

/-
# Which difference is found

The search goes through the clients in their order and stops at the first whose buckets differ, so a
difference that is found in the buckets of a client is reported if those of the clients before it
are the same (`firstMismatch?_of_bucket`). In buckets of the same size it is the first position at
which the payloads differ: what stands before it is the same in both
(`firstDifference?_eq_some_iff`). This says of each difference when it is the one that is reported
(`firstMismatch?_exact`), for any two bucket sets. None of it tells what was expected from what was
delivered, so the two may change places (`firstMismatch?_swap`).
-/

import Autograder.Proofs.Buckets.Agreement
import Mathlib.Data.Nat.Find

namespace Autograder
namespace Mismatch

/-- **Two lists differ first where they part**: up to there they are the same. -/
theorem firstDifference?_eq_some_iff {k p : Nat} {want got : List String} {w g : String} :
    firstDifference? k want got = some (p, w, g) ↔
      w ≠ g ∧ ∃ same wants gots, want = same ++ w :: wants ∧ got = same ++ g :: gots ∧
        p = k + same.length := by
  induction want generalizing got k with
  | nil =>
    constructor
    · intro h
      cases got <;> cases h
    · rintro ⟨-, same, wants, gots, hwant, -⟩
      simp at hwant
  | cons x xs ih =>
    cases got with
    | nil =>
      constructor
      · intro h
        cases h
      · rintro ⟨-, same, wants, gots, -, hgot, -⟩
        simp at hgot
    | cons y ys =>
      rw [firstDifference?]
      by_cases hxy : x = y
      · subst hxy
        rw [if_pos rfl, ih]
        refine and_congr_right fun hne => ?_
        constructor
        · rintro ⟨same, wants, gots, rfl, rfl, rfl⟩
          refine ⟨x :: same, wants, gots, rfl, rfl, ?_⟩
          rw [List.length_cons]
          omega
        · rintro ⟨same, wants, gots, hwant, hgot, rfl⟩
          cases same with
          | nil =>
            cases hwant
            cases hgot
            exact absurd rfl hne
          | cons z same =>
            cases hwant
            cases hgot
            refine ⟨same, wants, gots, rfl, rfl, ?_⟩
            rw [List.length_cons]
            omega
      · rw [if_neg hxy, Option.some.injEq, Prod.mk.injEq, Prod.mk.injEq]
        constructor
        · rintro ⟨rfl, rfl, rfl⟩
          exact ⟨hxy, [], xs, ys, rfl, rfl, rfl⟩
        · rintro ⟨-, same, wants, gots, hwant, hgot, rfl⟩
          cases same with
          | nil =>
            cases hwant
            cases hgot
            exact ⟨rfl, rfl, rfl⟩
          | cons z same =>
            cases hwant
            cases hgot
            exact absurd rfl hxy

/-- Buckets of different sizes differ in their sizes. -/
theorem ofBuckets?_of_length_ne {want got : List String} (h : want.length ≠ got.length) (c : Nat) :
    ofBuckets? c want got = some (.count c want.length got.length) := by
  rw [ofBuckets?, if_pos h]

/-- Buckets of the same size differ where they part. -/
theorem ofBuckets?_append {same wants gots : List String} {w g : String} (hne : w ≠ g)
    (hlength : wants.length = gots.length) (c : Nat) :
    ofBuckets? c (same ++ w :: wants) (same ++ g :: gots) =
      some (.payload c same.length w g) := by
  have hsizes : (same ++ w :: wants).length = (same ++ g :: gots).length := by
    rw [List.length_append, List.length_append, List.length_cons, List.length_cons, hlength]
  have hdifference : firstDifference? 0 (same ++ w :: wants) (same ++ g :: gots) =
      some (same.length, w, g) :=
    firstDifference?_eq_some_iff.2 ⟨hne, same, wants, gots, rfl, rfl, (Nat.zero_add _).symm⟩
  rw [ofBuckets?, if_neg (not_not_intro hsizes), hdifference, Option.map_some]

/-- Where two lists part, in positions. -/
theorem exists_eq_append_cons_iff_take {want got : List String} {w g : String} {p : Nat} :
    (∃ same wants gots, want = same ++ w :: wants ∧ got = same ++ g :: gots ∧
        p = same.length) ↔
      want.take p = got.take p ∧ want[p]? = some w ∧ got[p]? = some g := by
  constructor
  · rintro ⟨same, wants, gots, rfl, rfl, rfl⟩
    simp
  · rintro ⟨htake, hw, hg⟩
    obtain ⟨hltw, rfl⟩ := List.getElem?_eq_some_iff.1 hw
    obtain ⟨hltg, rfl⟩ := List.getElem?_eq_some_iff.1 hg
    refine ⟨want.take p, want.drop (p + 1), got.drop (p + 1), ?_, ?_, ?_⟩
    · rw [List.getElem_cons_drop, List.take_append_drop]
    · rw [htake, List.getElem_cons_drop, List.take_append_drop]
    · rw [List.length_take, Nat.min_eq_left hltw.le]

/-- **How two buckets of a client differ**: in their sizes, or else at the first position at which
their payloads do. -/
theorem ofBuckets?_eq_some_iff {c : Nat} {want got : List String} {m : Mismatch} :
    ofBuckets? c want got = some m ↔
      (want.length ≠ got.length ∧ m = .count c want.length got.length) ∨
        (want.length = got.length ∧ ∃ p w g, m = .payload c p w g ∧
          want.take p = got.take p ∧ want[p]? = some w ∧ got[p]? = some g ∧ w ≠ g) := by
  by_cases hlength : want.length = got.length
  · have hfound (p : Nat) (w g : String) : firstDifference? 0 want got = some (p, w, g) ↔
        want.take p = got.take p ∧ want[p]? = some w ∧ got[p]? = some g ∧ w ≠ g := by
      rw [firstDifference?_eq_some_iff]
      simp only [Nat.zero_add, exists_eq_append_cons_iff_take]
      rw [and_comm, and_assoc, and_assoc]
    rw [ofBuckets?, if_neg (not_not_intro hlength), Option.map_eq_some_iff]
    constructor
    · rintro ⟨⟨p, w, g⟩, hdifference, rfl⟩
      exact Or.inr ⟨hlength, p, w, g, rfl, (hfound p w g).1 hdifference⟩
    · rintro (⟨hne, -⟩ | ⟨-, p, w, g, rfl, hpart⟩)
      · exact absurd hlength hne
      · exact ⟨(p, w, g), (hfound p w g).2 hpart, rfl⟩
  · rw [ofBuckets?_of_length_ne hlength, Option.some.injEq]
    constructor
    · rintro rfl
      exact Or.inl ⟨hlength, rfl⟩
    · rintro (⟨-, rfl⟩ | ⟨heq, -⟩)
      · rfl
      · exact absurd heq hlength

/-! ## What was expected and what was delivered exchanged -/

/-- The difference as it is seen from the other side. -/
def swap : Mismatch → Mismatch
  | .clientCount expected actual => .clientCount actual expected
  | .count client expected actual => .count client actual expected
  | .payload client position expected actual => .payload client position actual expected

theorem firstDifference?_swap (k : Nat) (want got : List String) :
    firstDifference? k got want =
      (firstDifference? k want got).map fun (p, w, g) => (p, g, w) := by
  induction want generalizing got k with
  | nil => cases got <;> rfl
  | cons x xs ih =>
    cases got with
    | nil => rfl
    | cons y ys =>
      rw [firstDifference?, firstDifference?]
      by_cases hxy : x = y
      · rw [if_pos hxy, if_pos hxy.symm, ih]
      · rw [if_neg hxy, if_neg (Ne.symm hxy), Option.map_some]

theorem ofBuckets?_swap (c : Nat) (want got : List String) :
    ofBuckets? c got want = (ofBuckets? c want got).map swap := by
  by_cases hlength : want.length = got.length
  · rw [ofBuckets?, ofBuckets?, if_neg (not_not_intro hlength),
      if_neg (not_not_intro hlength.symm), firstDifference?_swap, Option.map_map, Option.map_map]
    rfl
  · rw [ofBuckets?_of_length_ne hlength, ofBuckets?_of_length_ne (Ne.symm hlength)]
    rfl

end Mismatch

namespace BucketSet

/-- The clients with their buckets, from the first client to the last. -/
theorem entries_eq (s : BucketSet) :
    s.entries = (List.range' 1 s.clientCount).map fun c => (c, s.bucket c) := by
  refine List.ext_getElem ?_ fun i hi _ => ?_
  · rw [entries, List.length_map, List.length_zipIdx, List.length_map, List.length_range',
      clientCount]
  · have hlt : i < s.buckets.length := by
      rwa [entries, List.length_map, List.length_zipIdx] at hi
    simp only [entries, List.getElem_map, List.getElem_zipIdx, List.getElem_range', Nat.one_mul]
    rw [Nat.add_comm 1 i, bucket_succ, List.getElem?_eq_getElem hlt, Option.getD_some]

/-- **The first client whose buckets differ is reported.** -/
theorem firstMismatch?_of_bucket {s t : BucketSet} {c : Nat} {m : Mismatch}
    (hcount : s.clientCount = t.clientCount) (h₁ : 1 ≤ c) (h₂ : c ≤ s.clientCount)
    (hbelow : ∀ e, 1 ≤ e → e < c → s.bucket e = t.bucket e)
    (hm : Mismatch.ofBuckets? c (s.bucket c) (t.bucket c) = some m) :
    firstMismatch? s t = some m := by
  -- The clients before `c`, and those from `c` on.
  have hsplit : List.range' 1 s.clientCount =
      List.range' 1 (c - 1) ++ c :: List.range' (c + 1) (s.clientCount - c) := by
    have hcut : List.range' 1 (c - 1) ++ List.range' (1 + (c - 1)) (s.clientCount - c + 1) =
        List.range' 1 (c - 1 + (s.clientCount - c + 1)) := List.range'_append_1
    rw [show 1 + (c - 1) = c by omega, List.range'_succ,
      show c - 1 + (s.clientCount - c + 1) = s.clientCount by omega] at hcut
    exact hcut.symm
  have hbefore : ((List.range' 1 (c - 1)).map fun e => (e, s.bucket e)).findSome?
      (fun p => Mismatch.ofBuckets? p.1 p.2 (t.bucket p.1)) = none := by
    rw [List.findSome?_eq_none_iff]
    intro p hp
    obtain ⟨e, he, rfl⟩ := List.mem_map.1 hp
    rw [List.mem_range'_1] at he
    exact Mismatch.ofBuckets?_eq_none_iff.2 (hbelow e he.1 (by omega))
  rw [firstMismatch?, if_neg (not_not_intro hcount), entries_eq, hsplit, List.map_append,
    List.findSome?_append, hbefore, Option.none_or, List.map_cons, List.findSome?_cons]
  dsimp only
  rw [hm]

/-- Where buckets differ, there is a client. -/
theorem hasClient_of_bucket_ne {s t : BucketSet} {c : Nat} (hcount : s.clientCount = t.clientCount)
    (hne : s.bucket c ≠ t.bucket c) : 1 ≤ c ∧ c ≤ s.clientCount := by
  by_contra hout
  have hs : ¬ s.hasClient c = true := fun h => hout (hasClient_iff.1 h)
  have ht : ¬ t.hasClient c = true := fun h => hout (hcount ▸ hasClient_iff.1 h)
  exact hne ((bucket_of_not_hasClient hs).trans (bucket_of_not_hasClient ht).symm)

/-- **Which difference is reported**: that of the numbers of clients, or else that in the buckets of
the first client whose buckets differ. -/
theorem firstMismatch?_eq_some_iff {s t : BucketSet} {m : Mismatch} :
    firstMismatch? s t = some m ↔
      (s.clientCount ≠ t.clientCount ∧ m = .clientCount s.clientCount t.clientCount) ∨
        (s.clientCount = t.clientCount ∧ ∃ c, (∀ d, d < c → s.bucket d = t.bucket d) ∧
          Mismatch.ofBuckets? c (s.bucket c) (t.bucket c) = some m) := by
  by_cases hcount : s.clientCount = t.clientCount
  · -- The first client whose buckets differ is reported, so it is the one that is.
    have hfirst (c : Nat) (m' : Mismatch) (hbelow : ∀ d, d < c → s.bucket d = t.bucket d)
        (hm' : Mismatch.ofBuckets? c (s.bucket c) (t.bucket c) = some m') :
        firstMismatch? s t = some m' := by
      have hne : s.bucket c ≠ t.bucket c := fun heq => by
        rw [Mismatch.ofBuckets?_eq_none_iff.2 heq] at hm'
        cases hm'
      obtain ⟨h₁, h₂⟩ := hasClient_of_bucket_ne hcount hne
      exact firstMismatch?_of_bucket hcount h₁ h₂ (fun d _ hlt => hbelow d hlt) hm'
    constructor
    · intro hm
      have hsome : ∃ c, s.bucket c ≠ t.bucket c := by
        by_contra hnone
        push Not at hnone
        rw [firstMismatch?_eq_none_iff.2 (ext_bucket hcount fun c _ _ => hnone c)] at hm
        cases hm
      have hbelow : ∀ d, d < Nat.find hsome → s.bucket d = t.bucket d := fun d hlt =>
        not_not.1 (Nat.find_min hsome hlt)
      obtain ⟨m', hm'⟩ := Option.ne_none_iff_exists'.1 fun hnone =>
        Nat.find_spec hsome (Mismatch.ofBuckets?_eq_none_iff (c := Nat.find hsome) |>.1 hnone)
      rw [hfirst _ m' hbelow hm', Option.some.injEq] at hm
      exact Or.inr ⟨hcount, _, hbelow, hm ▸ hm'⟩
    · rintro (⟨hne, -⟩ | ⟨-, c, hbelow, hm⟩)
      · exact absurd hcount hne
      · exact hfirst c m hbelow hm
  · rw [firstMismatch?, if_pos hcount, Option.some.injEq]
    constructor
    · rintro rfl
      exact Or.inl ⟨hcount, rfl⟩
    · rintro (⟨-, rfl⟩ | ⟨heq, -⟩)
      · rfl
      · exact absurd heq hcount

/-- **The difference is the same from both sides.** -/
theorem firstMismatch?_swap (s t : BucketSet) :
    firstMismatch? t s = (firstMismatch? s t).map Mismatch.swap := by
  by_cases hcount : s.clientCount = t.clientCount
  · rw [firstMismatch?, firstMismatch?, if_neg (not_not_intro hcount),
      if_neg (not_not_intro hcount.symm), entries_eq, entries_eq, hcount, List.findSome?_map,
      List.findSome?_map, List.map_findSome?]
    congr 1
    funext c
    exact Mismatch.ofBuckets?_swap c (s.bucket c) (t.bucket c)
  · rw [firstMismatch?, firstMismatch?, if_pos hcount, if_pos (Ne.symm hcount)]
    rfl

/-- **The first difference of any two bucket sets.** None is reported if and only if they are equal.
The numbers of clients are reported if and only if they differ. Sizes are reported if they are those
of the first client whose buckets differ, and they differ; payloads, if they are the first that
differ in buckets of one size. What was expected and what was delivered may change places. -/
theorem firstMismatch?_exact (s t : BucketSet) :
    (firstMismatch? s t = none ↔ s = t) ∧
      (∀ e a, firstMismatch? s t = some (.clientCount e a) ↔
        s.clientCount = e ∧ t.clientCount = a ∧ e ≠ a) ∧
      (∀ c e a, firstMismatch? s t = some (.count c e a) ↔
        s.clientCount = t.clientCount ∧ (∀ d, d < c → s.bucket d = t.bucket d) ∧
          (s.bucket c).length = e ∧ (t.bucket c).length = a ∧ e ≠ a) ∧
      (∀ c p w g, firstMismatch? s t = some (.payload c p w g) ↔
        s.clientCount = t.clientCount ∧ (∀ d, d < c → s.bucket d = t.bucket d) ∧
          (s.bucket c).length = (t.bucket c).length ∧
          (s.bucket c).take p = (t.bucket c).take p ∧ (s.bucket c)[p]? = some w ∧
          (t.bucket c)[p]? = some g ∧ w ≠ g) ∧
      firstMismatch? t s = (firstMismatch? s t).map Mismatch.swap := by
  refine ⟨firstMismatch?_eq_none_iff, fun e a => ?_, fun c e a => ?_, fun c p w g => ?_,
    firstMismatch?_swap s t⟩
  · simp only [firstMismatch?_eq_some_iff, Mismatch.ofBuckets?_eq_some_iff, reduceCtorEq,
      Mismatch.clientCount.injEq, and_false, false_and, exists_false, or_false]
    constructor
    · rintro ⟨hne, rfl, rfl⟩
      exact ⟨rfl, rfl, hne⟩
    · rintro ⟨rfl, rfl, hne⟩
      exact ⟨hne, rfl, rfl⟩
  · simp only [firstMismatch?_eq_some_iff, Mismatch.ofBuckets?_eq_some_iff, reduceCtorEq,
      Mismatch.count.injEq, and_false, false_and, exists_false, false_or, or_false]
    constructor
    · rintro ⟨hcount, _, hbelow, hne, rfl, rfl, rfl⟩
      exact ⟨hcount, hbelow, rfl, rfl, hne⟩
    · rintro ⟨hcount, hbelow, rfl, rfl, hne⟩
      exact ⟨hcount, c, hbelow, hne, rfl, rfl, rfl⟩
  · simp only [firstMismatch?_eq_some_iff, Mismatch.ofBuckets?_eq_some_iff, reduceCtorEq,
      Mismatch.payload.injEq, and_false, false_or]
    constructor
    · rintro ⟨hcount, _, hbelow, hlength, _, _, _, ⟨rfl, rfl, rfl, rfl⟩, hpart⟩
      exact ⟨hcount, hbelow, hlength, hpart⟩
    · rintro ⟨hcount, hbelow, hlength, hpart⟩
      exact ⟨hcount, c, hbelow, hlength, p, w, g, ⟨rfl, rfl, rfl, rfl⟩, hpart⟩

/-- A longer bucket is a difference of sizes, also where the shorter one is the start of it. -/
example : firstMismatch? ⟨[[], ["b", "a"]]⟩ ⟨[[], ["b"]]⟩ = some (.count 2 2 1) := by decide

end BucketSet
end Autograder

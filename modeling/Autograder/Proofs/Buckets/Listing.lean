/-
# A listing reads back

A listing is made of lines: a heading for each client and a line for each of its payloads. A payload
is indented, so whatever it looks like, its line is no heading (`isHeading_item`). Cut at its
headings, a listing falls into the buckets it was made of (`splitOnP_groups`), and so the bucket set
is read back from it, as long as no payload runs over more than one line (`ofListing_listing`).
Payloads of a workload file never do.
-/

import Autograder.Buckets.Listing
import Autograder.Proofs.Buckets.Agreement
import Autograder.Proofs.Workload.RoundTrip

namespace Autograder
namespace BucketSet

/-! ## Lines -/

/-- The line that the payloads of a client stand under. -/
def heading (c : Nat) : List Char :=
  "Client ".toList ++ Nat.toDigits 10 c ++ " received:".toList

/-- The line of a payload. -/
def item (p : String) : List Char := "  - ".toList ++ p.toList

/-- A line that is not indented. -/
def isHeading (l : List Char) : Bool := l.head? == some 'C'

theorem isHeading_heading (c : Nat) : isHeading (heading c) = true := by
  have hstart : "Client ".toList = 'C' :: "lient ".toList := by decide
  unfold heading isHeading
  rw [hstart, List.cons_append, List.cons_append, List.head?_cons]
  exact beq_self_eq_true _

/-- A payload does not pass for a heading. -/
theorem isHeading_item (p : String) : isHeading (item p) = false := by
  have hstart : "  - ".toList = ' ' :: " - ".toList := by decide
  unfold item isHeading
  rw [hstart, List.cons_append, List.head?_cons]
  decide

theorem newline_not_mem_heading (c : Nat) : '\n' ∉ heading c := by
  unfold heading
  rw [List.mem_append, List.mem_append]
  rintro ((hmem | hmem) | hmem)
  · exact absurd hmem (by decide)
  · exact Text.newline_not_mem_toDigits c hmem
  · exact absurd hmem (by decide)

theorem newline_not_mem_item {p : String} (h : '\n' ∉ p.toList) : '\n' ∉ item p := by
  unfold item
  rw [List.mem_append]
  rintro (hmem | hmem)
  · exact absurd hmem (by decide)
  · exact h hmem

/-- The lines of a client. -/
def group (entry : Nat × List String) : List (List Char) :=
  heading entry.1 :: entry.2.map item

theorem listingOf_eq (c : Nat) (b : List String) :
    listingOf c b = Text.terminated (group (c, b)) := by
  have hheading : heading c ++ ['\n'] =
      "Client ".toList ++ Nat.toDigits 10 c ++ " received:\n".toList := by
    have hend : " received:".toList ++ ['\n'] = " received:\n".toList := by decide
    unfold heading
    rw [List.append_assoc, hend]
  rw [group, Text.terminated, List.flatMap_cons, hheading, List.flatMap_map]
  rfl

/-- **A listing is the lines of its clients**, each with a line feed. -/
theorem toList_listing (s : BucketSet) :
    s.listing.toList = Text.terminated (s.entries.flatMap group) := by
  rw [listing, String.toList_ofList, Text.terminated, List.flatMap_assoc]
  exact congrArg (List.flatMap · s.entries) (funext fun entry => listingOf_eq entry.1 entry.2)

/-! ## Groups of lines -/

/-- Groups that start with a separator each are cut at these. What stands in front is cut off
first. -/
theorem splitOnP_groups {α : Type} {p : α → Bool} {gs : List (α × List α)}
    (hg : ∀ g ∈ gs, p g.1 = true ∧ ∀ d ∈ g.2, p d = false) {front : List α}
    (hfront : ∀ d ∈ front, p d = false) :
    (front ++ gs.flatMap fun g => g.1 :: g.2).splitOnP p = front :: gs.map Prod.snd := by
  induction gs generalizing front with
  | nil =>
    rw [List.flatMap_nil, List.append_nil]
    exact List.splitOnP_eq_singleton hfront
  | cons g gs ih =>
    obtain ⟨hsep, hrest⟩ := hg g (List.mem_cons_self ..)
    rw [List.flatMap_cons, List.cons_append,
      List.splitOnP_append_cons_of_forall_mem hfront _ hsep,
      ih (fun g' hg' => hg g' (List.mem_cons_of_mem _ hg')) hrest, List.map_cons]

theorem map_snd_entries (s : BucketSet) : s.entries.map Prod.snd = s.buckets := by
  rw [entries, List.map_map]
  exact List.zipIdx_map_fst 1 s.buckets

/-- **Cut at its headings, a listing falls into the buckets.** -/
theorem splitOnP_entries (s : BucketSet) :
    (s.entries.flatMap group).splitOnP isHeading = [] :: s.buckets.map (List.map item) := by
  have hgroups : s.entries.flatMap group =
      (s.entries.map fun e => (heading e.1, e.2.map item)).flatMap fun g => g.1 :: g.2 := by
    rw [List.flatMap_map]
    rfl
  have hcut : ∀ g ∈ s.entries.map (fun e => (heading e.1, e.2.map item)),
      isHeading g.1 = true ∧ ∀ l ∈ g.2, isHeading l = false := by
    intro g hg
    obtain ⟨e, -, rfl⟩ := List.mem_map.1 hg
    refine ⟨isHeading_heading e.1, fun l hl => ?_⟩
    obtain ⟨p, -, rfl⟩ := List.mem_map.1 hl
    exact isHeading_item p
  have hfront : ∀ l ∈ ([] : List (List Char)), isHeading l = false := fun l hl =>
    absurd hl List.not_mem_nil
  have hsplit := splitOnP_groups hcut hfront
  rw [List.nil_append, ← hgroups, List.map_map] at hsplit
  rw [hsplit, ← map_snd_entries, List.map_map]
  rfl

/-! ## Reading -/

/-- The bucket set that a listing tells of: what follows each heading is a bucket, and the first
four characters of a line are not part of its payload. -/
def ofListing (text : String) : BucketSet :=
  ⟨((text.toList.splitOn '\n').dropLast.splitOnP isHeading).tail.map
    (List.map fun l => String.ofList (l.drop 4))⟩

/-- No payload runs over more than one line. -/
def IsOneLine (s : BucketSet) : Prop := ∀ b ∈ s.buckets, ∀ p ∈ b, '\n' ∉ p.toList

instance (s : BucketSet) : Decidable s.IsOneLine :=
  inferInstanceAs (Decidable (∀ b ∈ s.buckets, ∀ p ∈ b, '\n' ∉ p.toList))

theorem newline_not_mem_of_mem_entries {s : BucketSet} (h : s.IsOneLine) :
    ∀ l ∈ s.entries.flatMap group, '\n' ∉ l := by
  intro l hl
  obtain ⟨e, he, hl⟩ := List.mem_flatMap.1 hl
  have hbucket : e.2 ∈ s.buckets := map_snd_entries s ▸ List.mem_map_of_mem he
  rcases List.mem_cons.1 hl with rfl | hl
  · exact newline_not_mem_heading e.1
  · obtain ⟨p, hp, rfl⟩ := List.mem_map.1 hl
    exact newline_not_mem_item (h e.2 hbucket p hp)

/-- **A bucket set is read back from its listing.** -/
theorem ofListing_listing {s : BucketSet} (h : s.IsOneLine) : ofListing s.listing = s := by
  have hpayload (p : String) : String.ofList ((item p).drop 4) = p := by simp [item]
  rw [ofListing, toList_listing, Text.splitOn_terminated (newline_not_mem_of_mem_entries h),
    List.dropLast_concat, splitOnP_entries, List.tail_cons, List.map_map]
  simp [Function.comp_def, hpayload]

/-- Payloads that are sent by a workload file are on one line. -/
theorem isOneLine_ofWorkload {n : Nat} {text : String} {w : Workload}
    (hw : Workload.read n text = .ok w) : (ofWorkload n w).IsOneLine := by
  intro b hb p hp
  rw [← map_snd_entries] at hb
  obtain ⟨⟨c, b⟩, he, rfl⟩ := List.mem_map.1 hb
  obtain ⟨hc, rfl⟩ := mem_entries_iff.1 he
  dsimp only at hp
  rw [ofWorkload_eq_ofDeliveries] at hp hc
  obtain ⟨h₁, h₂⟩ := hasClient_iff.1 hc
  rw [clientCount_ofDeliveries] at h₂
  rw [bucket_ofDeliveries h₁ h₂, ← Workload.payloadsFor_eq] at hp
  obtain ⟨m, hm, rfl⟩ := List.mem_map.1 ((inOrder_perm _).subset hp)
  exact (Workload.fits_of_read hw m (List.mem_of_mem_filter hm)).oneLine

/-- **Listings are equal if and only if the bucket sets are**, whatever the payloads look like, as
long as each is on one line. So the listings of two workload files are equal if and only if the
files agree, also for different numbers of clients. -/
theorem listing_eq_iff :
    (∀ s t : BucketSet, s.IsOneLine → t.IsOneLine → (s.listing = t.listing ↔ s = t)) ∧
      ∀ (n n' : Nat) (text text' : String) (w w' : Workload),
        Workload.read n text = .ok w → Workload.read n' text' = .ok w' →
        ((ofWorkload n w).listing = (ofWorkload n' w').listing ↔
          (ofWorkload n w).agrees (ofWorkload n' w') = true) := by
  have hlisting : ∀ s t : BucketSet, s.IsOneLine → t.IsOneLine →
      (s.listing = t.listing ↔ s = t) := by
    intro s t hs ht
    constructor
    · intro h
      rw [← ofListing_listing hs, h, ofListing_listing ht]
    · rintro rfl
      rfl
  refine ⟨hlisting, fun n n' text text' w w' hw hw' => ?_⟩
  rw [agrees_iff]
  exact hlisting _ _ (isOneLine_ofWorkload hw) (isOneLine_ofWorkload hw')

/-- Payloads that look like the lines of a listing, in the bucket of the first client or in those of
two; the same two messages in another order; and a client more, who gets nothing. -/
theorem listing_eq_iff_of_lookalikes :
    (IsOneLine ⟨[["Client 2 received:", "  - x"], []]⟩ ∧ IsOneLine ⟨[[""], ["x"]]⟩ ∧
      listing ⟨[["Client 2 received:", "  - x"], []]⟩ ≠ listing ⟨[[""], ["x"]]⟩) ∧
    Workload.read 2 "1 1 - x\n2 1 Client 2 received:\n" =
        .ok [⟨1, 1, "- x"⟩, ⟨2, 1, "Client 2 received:"⟩] ∧
      Workload.read 2 "1 1 Client 2 received:\n1 1 - x" =
        .ok [⟨1, 1, "Client 2 received:"⟩, ⟨1, 1, "- x"⟩] ∧
      Workload.read 3 "1 1 - x\n2 1 Client 2 received:\n" =
        .ok [⟨1, 1, "- x"⟩, ⟨2, 1, "Client 2 received:"⟩] ∧
      (ofWorkload 2 [⟨1, 1, "- x"⟩, ⟨2, 1, "Client 2 received:"⟩]).listing =
        (ofWorkload 2 [⟨1, 1, "Client 2 received:"⟩, ⟨1, 1, "- x"⟩]).listing ∧
      (ofWorkload 2 [⟨1, 1, "- x"⟩, ⟨2, 1, "Client 2 received:"⟩]).listing ≠
        (ofWorkload 3 [⟨1, 1, "- x"⟩, ⟨2, 1, "Client 2 received:"⟩]).listing := by
  obtain ⟨hsets, hfiles⟩ := listing_eq_iff
  have hs : IsOneLine ⟨[["Client 2 received:", "  - x"], []]⟩ := by decide
  have ht : IsOneLine ⟨[[""], ["x"]]⟩ := by decide
  have hw : Workload.read 2 "1 1 - x\n2 1 Client 2 received:\n" =
      .ok [⟨1, 1, "- x"⟩, ⟨2, 1, "Client 2 received:"⟩] := rfl
  have hw' : Workload.read 2 "1 1 Client 2 received:\n1 1 - x" =
      .ok [⟨1, 1, "Client 2 received:"⟩, ⟨1, 1, "- x"⟩] := rfl
  have hw₃ : Workload.read 3 "1 1 - x\n2 1 Client 2 received:\n" =
      .ok [⟨1, 1, "- x"⟩, ⟨2, 1, "Client 2 received:"⟩] := rfl
  refine ⟨⟨hs, ht, fun h => ?_⟩, hw, hw', hw₃, ?_, fun h => ?_⟩
  · exact absurd ((hsets _ _ hs ht).1 h) (by decide)
  · refine (hfiles _ _ _ _ _ _ hw hw').2 (agrees_iff.2 ?_)
    rw [ofWorkload_eq_ofDeliveries, ofWorkload_eq_ofDeliveries]
    exact ofDeliveries_eq_of_perm 2 (by decide)
  · have hcount := congrArg clientCount (agrees_iff.1 ((hfiles _ _ _ _ _ _ hw hw₃).1 h))
    rw [ofWorkload_eq_ofDeliveries, ofWorkload_eq_ofDeliveries, clientCount_ofDeliveries,
      clientCount_ofDeliveries] at hcount
    exact absurd hcount (by decide)

end BucketSet
end Autograder

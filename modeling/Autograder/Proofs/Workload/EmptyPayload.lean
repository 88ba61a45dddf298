/-
# Messages without a text

No entry of a corpus is blank, but a payload is cut off before it is trimmed. So an entry that starts
with as many blanks as a payload may have characters leaves an empty payload, whatever follows them
(`generate?_after_998_blanks`), and no other entry does (`sanitize_eq_empty_iff`). All messages that
are ever drawn from a corpus have a text if and only if the corpus has no such entry
(`payload_ne_empty_iff`).
-/

import Autograder.Proofs.Corpus.RoundTrip
import Autograder.Proofs.Workload.Drawn
import Autograder.Random.ChaCha

namespace Autograder

/-! ## Payloads -/

/-- The number of blanks that a text starts with, carriage returns not counted. -/
def leadingBlanks (raw : List Char) : Nat :=
  ((raw.filter (· != '\r')).takeWhile Text.isBlank).length

/-- The first characters of a text are all alike if and only if they belong to those that it starts
with, unless the whole text is alike. -/
theorem all_take_iff {p : Char → Bool} {s : List Char} (h : s.all p = false) (n : Nat) :
    (s.take n).all p = true ↔ n ≤ (s.takeWhile p).length := by
  induction s generalizing n with
  | nil => exact absurd h (by simp)
  | cons c s ih =>
    cases n with
    | zero => simp
    | succ n =>
      cases hc : p c with
      | false => simp [hc]
      | true =>
        have hrest : s.all p = false := by simpa [hc] using h
        simpa [hc] using ih hrest n

/-- Without its carriage returns a text is blank if it was blank with them. -/
theorem isAllBlank_filter_return (raw : List Char) :
    Text.isAllBlank (raw.filter (· != '\r')) = Text.isAllBlank raw := by
  rw [Text.isAllBlank, Text.isAllBlank, Bool.eq_iff_iff, List.all_eq_true, List.all_eq_true]
  constructor
  · intro h c hc
    by_cases hreturn : c = '\r'
    · rw [hreturn]
      rfl
    · exact h c (List.mem_filter.2 ⟨hc, by simpa using hreturn⟩)
  · exact fun h c hc => h c (List.mem_of_mem_filter hc)

/-- **An empty payload** is made of an entry if and only if it starts with as many blanks as a
payload may have characters. -/
theorem sanitize_eq_empty_iff {e : String} (h : Text.isAllBlank e.toList = false) :
    sanitize e = "" ↔ maxPayloadChars ≤ leadingBlanks e.toList := by
  have hkept : (e.toList.filter (· != '\r')).all Text.isBlank = false :=
    (isAllBlank_filter_return _).trans h
  calc sanitize e = ""
      ↔ wireSafe e.toList = [] := by rw [← String.toList_inj, toList_sanitize, String.toList_empty]
    _ ↔ (carried e.toList).all Text.isBlank = true := wireSafe_eq_nil_iff
    _ ↔ maxPayloadChars ≤ leadingBlanks e.toList := all_take_iff hkept _

/-! ## Corpora -/

namespace Corpus

/-- No entry of a corpus is blank, wherever the corpus comes from. -/
theorem isAllBlank_of_mem_entries {corpus : Corpus}
    (h : (∃ es, ofEntries es = .ok corpus) ∨ ∃ text, ofText text = .ok corpus) :
    ∀ e ∈ corpus.entries, Text.isAllBlank e.toList = false := by
  intro e he
  rcases h with ⟨es, hes⟩ | ⟨text, htext⟩
  · rw [ofEntries_eq_ok_iff.1 hes] at he
    simpa using (List.mem_filter.1 he).2
  · exact (isEntry_of_ofText htext e he).notBlank

end Corpus

/-- Dice that always show the same number, as far as it is in range. -/
def Dice.fixed : Dice Nat where
  client {n} h s := (⟨s % n, Nat.mod_lt s h⟩, s)
  entry {n} h s := (⟨s % n, Nat.mod_lt s h⟩, s)

namespace Workload

variable {n : Nat} {corpus : Corpus}

/-- Each entry of a corpus can be drawn. -/
theorem exists_drawMessage_eq (hn : 0 < n) {e : String} (he : e ∈ corpus.entries) :
    ∃ s, (drawMessage Dice.fixed corpus hn s).1.payload = sanitize e := by
  obtain ⟨i, hi, rfl⟩ := List.mem_iff_getElem.1 he
  have hbound : i % corpus.entries.length < corpus.entries.length := Nat.mod_lt i corpus.nonempty
  have hdrawn : (drawMessage Dice.fixed corpus hn i).1.payload =
      sanitize corpus.entries[i % corpus.entries.length] := rfl
  refine ⟨i, hdrawn.trans ?_⟩
  congr
  exact Nat.mod_eq_of_lt hi

/-- **All messages that are drawn from a corpus have a text** if and only if no entry starts with as
many blanks as a payload may have characters. -/
theorem payload_ne_empty_iff
    (h : (∃ es, Corpus.ofEntries es = .ok corpus) ∨ ∃ text, Corpus.ofText text = .ok corpus)
    (hn : 0 < n) :
    (∀ (ρ : Type) (dice : Dice ρ) (s : ρ), (drawMessage dice corpus hn s).1.payload ≠ "" ∧
        ∀ (count : Nat) (w : Workload), generate? dice corpus n count s = some w →
          ∀ m ∈ w, m.payload ≠ "") ↔
      ∀ e ∈ corpus.entries, leadingBlanks e.toList < maxPayloadChars := by
  have hblank := Corpus.isAllBlank_of_mem_entries h
  constructor
  · intro htext e he
    by_contra hlong
    obtain ⟨s, hs⟩ := exists_drawMessage_eq hn he
    have hempty := (sanitize_eq_empty_iff (hblank e he)).2 (not_lt.1 hlong)
    exact (htext Nat Dice.fixed s).1 (hs.trans hempty)
  · intro hshort ρ dice s
    have hdrawn : ∀ m, IsDrawn corpus n m → m.payload ≠ "" := by
      intro m hm
      obtain ⟨e, he, hpayload⟩ := hm.payload
      rw [hpayload, ne_eq, sanitize_eq_empty_iff (hblank e he)]
      exact not_le.2 (hshort e he)
    exact ⟨hdrawn _ (isDrawn_drawMessage dice corpus hn s),
      fun count w hw m hm => hdrawn m (isDrawn_of_generate? hw m hm)⟩

/-- Entries that start with blanks, and one that ends with them. -/
theorem payload_ne_empty_of_short_blanks :
    ∃ corpus, Corpus.ofEntries ["\r\n\t a", " \r\n", "b \u3000"] = .ok corpus ∧
      corpus.entries = ["\r\n\t a", "b \u3000"] ∧ (0 : Nat) < 2 ∧
      ∀ (count : Nat) (w : Workload),
        generate? ChaCha.dice.toDice corpus 2 count (ChaCha.dice.ofSeed 7) = some w →
          ∀ m ∈ w, m.payload ≠ "" := by
  have hcorpus : Corpus.ofEntries ["\r\n\t a", " \r\n", "b \u3000"] =
      .ok ⟨["\r\n\t a", "b \u3000"], by decide⟩ := rfl
  refine ⟨_, hcorpus, rfl, Nat.two_pos, ?_⟩
  exact ((payload_ne_empty_iff (.inl ⟨_, hcorpus⟩) Nat.two_pos).2 (by decide) _ _ _).2

theorem IsDrawn.eq_of_entries {m : Message} {e : String} (h : IsDrawn corpus 1 m)
    (he : corpus.entries = [e]) : m = ⟨1, 1, sanitize e⟩ := by
  obtain ⟨⟨hs, hs'⟩, ⟨hd, hd'⟩, e', he', hpayload⟩ := h
  rw [he, List.mem_singleton] at he'
  obtain ⟨source, destination, payload⟩ := m
  subst hpayload he'
  have hsource : source = 1 := le_antisymm hs' hs
  have hdestination : destination = 1 := le_antisymm hd' hd
  rw [hsource, hdestination]

/-- With a single client and a corpus of one entry nothing is left to chance. -/
theorem generate?_one {ρ : Type} (dice : Dice ρ) (s : ρ) {e : String}
    (he : corpus.entries = [e]) : generate? dice corpus 1 1 s = some [⟨1, 1, sanitize e⟩] := by
  rw [generate?_of_pos dice corpus Nat.one_pos,
    ← (isDrawn_drawMessage dice corpus Nat.one_pos s).eq_of_entries he]
  rfl

theorem isAllBlank_padded (k : Nat) : Text.isAllBlank (List.replicate k ' ' ++ ['x']) = false := by
  rw [Text.isAllBlank, List.all_append, Bool.and_eq_false_iff]
  exact .inr rfl

theorem leadingBlanks_padded (k : Nat) : leadingBlanks (List.replicate k ' ' ++ ['x']) = k := by
  have hkept : (List.replicate k ' ').filter (· != '\r') = List.replicate k ' ' :=
    List.filter_replicate_of_pos rfl
  have hall : ∀ c ∈ List.replicate k ' ', Text.isBlank c = true := fun c hc => by
    rw [List.eq_of_mem_replicate hc]
    rfl
  rw [leadingBlanks, List.filter_append, hkept, List.takeWhile_append_of_pos hall,
    List.length_append, List.length_replicate]
  rfl

/-- **An empty message.** The only entry of a corpus is a letter after 998 blanks, which is not a
blank entry, and the payload that is made of it is empty. -/
theorem generate?_after_998_blanks :
    ∃ (e : String) (corpus : Corpus), e = String.ofList (List.replicate 998 ' ' ++ ['x']) ∧
      Corpus.ofEntries [e] = .ok corpus ∧ corpus.entries = [e] ∧
      generate? ChaCha.dice.toDice corpus 1 1 (ChaCha.dice.ofSeed 7) = some [⟨1, 1, ""⟩] := by
  obtain ⟨e, he⟩ : ∃ e, e = String.ofList (List.replicate 998 ' ' ++ ['x']) := ⟨_, rfl⟩
  have hlist : e.toList = List.replicate 998 ' ' ++ ['x'] := by rw [he, String.toList_ofList]
  have hletter : Text.isAllBlank e.toList = false := by rw [hlist, isAllBlank_padded]
  have hempty : sanitize e = "" := by
    rw [sanitize_eq_empty_iff hletter, hlist, leadingBlanks_padded, maxPayloadChars]
  have hcorpus : Corpus.ofEntries [e] = .ok ⟨[e], Nat.one_pos⟩ :=
    Corpus.ofEntries_eq_ok_iff.2 (by simp [hletter])
  refine ⟨e, _, he, hcorpus, rfl, ?_⟩
  rw [generate?_one _ _ rfl, hempty]

end Workload
end Autograder

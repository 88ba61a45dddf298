/-
# What a random workload holds

A workload is drawn message by message. Whatever the dice answer, a message runs between two of the
clients and carries an entry of the corpus (`isDrawn_of_mem_draw`), so it fits a line of a workload
file, and the workload is read back from its file (`read_contents_of_isDrawn`). Which draws are
asked for is seen with dice that keep the bounds of their draws: they draw the same workload, and
each message takes two clients and an entry (`draw_keepingBounds`).
-/

import Autograder.Proofs.Workload.RoundTrip
import Autograder.Workload.Generator

namespace Autograder

/-- The same dice, which also keep the bounds of the draws that they are asked for. -/
def Dice.keepingBounds {ρ : Type} (dice : Dice ρ) : Dice (ρ × List Nat) where
  client {n} h s := ((dice.client h s.1).1, (dice.client h s.1).2, s.2 ++ [n])
  entry {n} h s := ((dice.entry h s.1).1, (dice.entry h s.1).2, s.2 ++ [n])

namespace Workload

/-- A message between two of `n` clients that carries an entry of a corpus. -/
structure IsDrawn (corpus : Corpus) (n : Nat) (m : Message) : Prop where
  source : 1 ≤ m.source ∧ m.source ≤ n
  destination : 1 ≤ m.destination ∧ m.destination ≤ n
  payload : ∃ e ∈ corpus.entries, m.payload = sanitize e

variable {ρ : Type} {corpus : Corpus} {n : Nat}

theorem IsDrawn.fits {m : Message} (h : IsDrawn corpus n m) : m.Fits n := by
  obtain ⟨e, -, he⟩ := h.payload
  have hm : m = Message.ofText m.source m.destination e := by rw [Message.ofText, ← he]
  rw [hm]
  exact Message.fits_ofText h.source h.destination e

/-! ## One message -/

theorem drawClient_mem (dice : Dice ρ) (h : 0 < n) (s : ρ) :
    1 ≤ (drawClient dice h s).1 ∧ (drawClient dice h s).1 ≤ n :=
  ⟨Nat.succ_pos _, (dice.client h s).1.isLt⟩

theorem drawEntry_mem (dice : Dice ρ) (corpus : Corpus) (s : ρ) :
    (drawEntry dice corpus s).1 ∈ corpus.entries := List.getElem_mem _

theorem isDrawn_drawMessage (dice : Dice ρ) (corpus : Corpus) (h : 0 < n) (s : ρ) :
    IsDrawn corpus n (drawMessage dice corpus h s).1 where
  source := drawClient_mem dice h _
  destination := drawClient_mem dice h _
  payload := ⟨_, drawEntry_mem dice corpus _, rfl⟩

/-- A message takes two clients and an entry. -/
theorem drawMessage_keepingBounds (dice : Dice ρ) (corpus : Corpus) (h : 0 < n) (s : ρ)
    (bounds : List Nat) :
    drawMessage dice.keepingBounds corpus h (s, bounds) =
      ((drawMessage dice corpus h s).1, (drawMessage dice corpus h s).2,
        bounds ++ [n, n, corpus.entries.length]) := by
  have hbounds : bounds ++ [n] ++ [n] ++ [corpus.entries.length] =
      bounds ++ [n, n, corpus.entries.length] := by
    rw [List.append_assoc, List.append_assoc]
    rfl
  rw [← hbounds]
  rfl

/-! ## Many messages -/

theorem length_draw (dice : Dice ρ) (corpus : Corpus) (h : 0 < n) (count : Nat) (s : ρ) :
    (draw dice corpus h count s).1.length = count := by
  induction count generalizing s with
  | zero => rfl
  | succ count ih => exact congrArg (· + 1) (ih _)

/-- **Whatever is drawn runs between two of the clients and carries an entry of the corpus.** -/
theorem isDrawn_of_mem_draw (dice : Dice ρ) (corpus : Corpus) (h : 0 < n) (count : Nat) (s : ρ) :
    ∀ m ∈ (draw dice corpus h count s).1, IsDrawn corpus n m := by
  induction count generalizing s with
  | zero => exact fun m hm => absurd hm List.not_mem_nil
  | succ count ih =>
    intro m hm
    rcases List.mem_cons.1 hm with rfl | hm
    · exact isDrawn_drawMessage dice corpus h s
    · exact ih _ m hm

/-- **The draws that are asked for.** Keeping their bounds does not change what is drawn. -/
theorem draw_keepingBounds (dice : Dice ρ) (corpus : Corpus) (h : 0 < n) (count : Nat) (s : ρ)
    (bounds : List Nat) :
    draw dice.keepingBounds corpus h count (s, bounds) =
      ((draw dice corpus h count s).1, (draw dice corpus h count s).2,
        bounds ++ (List.replicate count [n, n, corpus.entries.length]).flatten) := by
  induction count generalizing s bounds with
  | zero => rw [List.replicate_zero, List.flatten_nil, List.append_nil, draw, draw]
  | succ count ih =>
    rw [draw, drawMessage_keepingBounds]
    dsimp only
    rw [ih, List.replicate_succ, List.flatten_cons, ← List.append_assoc, draw]

theorem pos_of_mem_bounds (corpus : Corpus) (h : 0 < n) (count : Nat) :
    ∀ bound ∈ (List.replicate count [n, n, corpus.entries.length]).flatten, 0 < bound := by
  intro bound hbound
  obtain ⟨l, hl, hmem⟩ := List.mem_flatten.1 hbound
  rw [List.eq_of_mem_replicate hl] at hmem
  rcases List.mem_cons.1 hmem with rfl | hmem
  · exact h
  · rcases List.mem_cons.1 hmem with rfl | hmem
    · exact h
    · rw [List.mem_singleton.1 hmem]
      exact corpus.nonempty

theorem generate?_of_pos (dice : Dice ρ) (corpus : Corpus) (h : 0 < n) (count : Nat) (s : ρ) :
    generate? dice corpus n count s = some (draw dice corpus h count s).1 := dif_pos h

theorem pos_of_generate? {dice : Dice ρ} {count : Nat} {s : ρ} {w : Workload}
    (h : generate? dice corpus n count s = some w) : 0 < n := by
  unfold generate? at h
  split at h
  · assumption
  · cases h

/-- Whatever a random workload holds was drawn. -/
theorem isDrawn_of_generate? {dice : Dice ρ} {count : Nat} {s : ρ} {w : Workload}
    (h : generate? dice corpus n count s = some w) : ∀ m ∈ w, IsDrawn corpus n m := by
  have hn := pos_of_generate? h
  rw [generate?_of_pos dice corpus hn] at h
  cases h
  exact isDrawn_of_mem_draw dice corpus hn count s

/-- **A random workload is read back from its file.** -/
theorem read_contents_of_isDrawn (hn : n ≤ Text.maxUInt32) {w : Workload}
    (h : ∀ m ∈ w, IsDrawn corpus n m) : read n w.contents = .ok w :=
  read_contents hn fun m hm => (h m hm).fits

end Workload
end Autograder

/-
# Random workloads as a stream

The messages that are drawn from one state of the dice form a stream (`messageAt`), and a random
workload of any length is the beginning of it (`draw_eq`). So drawing some messages first and the
rest later gives the workload that is drawn at once (`draw_add`), and the file of a workload begins
with the files of all shorter ones (`contents_append`).

What the dice are asked, and what they answer, is seen with dice that record their draws. A message
takes three draws, its source, its destination and an entry of the corpus, in this order, and the
answers depend on the number of entries but not on their texts (`isMadeFrom_picks`).
-/

import Autograder.Proofs.Workload.Drawn
import Autograder.Random.ChaCha
import Mathlib.Logic.Function.Iterate

namespace Autograder

/-- A draw and its answer, which is below the bound of the draw. -/
inductive Draw where
  | client (bound answer : Nat)
  | entry (bound answer : Nat)
  deriving DecidableEq, Repr

/-- The same dice, which also record their draws. -/
def Dice.recording {ρ : Type} (dice : Dice ρ) : Dice (ρ × List Draw) where
  client {n} h s := ((dice.client h s.1).1, (dice.client h s.1).2,
    s.2 ++ [.client n (dice.client h s.1).1])
  entry {n} h s := ((dice.entry h s.1).1, (dice.entry h s.1).2,
    s.2 ++ [.entry n (dice.entry h s.1).1])

namespace Workload

variable {ρ : Type} {n : Nat}

/-! ## The stream of messages -/

/-- The state of the dice after some messages. -/
def stateAfter (dice : Dice ρ) (corpus : Corpus) (h : 0 < n) (s : ρ) (k : Nat) : ρ :=
  (fun s => (drawMessage dice corpus h s).2)^[k] s

/-- The message that is drawn after `k` others. -/
def messageAt (dice : Dice ρ) (corpus : Corpus) (h : 0 < n) (s : ρ) (k : Nat) : Message :=
  (drawMessage dice corpus h (stateAfter dice corpus h s k)).1

/-- The messages of `k` draws, one after the other. -/
def messagesOf (dice : Dice ρ) (corpus : Corpus) (h : 0 < n) (s : ρ) (k : Nat) : List Message :=
  (List.range k).map (messageAt dice corpus h s)

variable (dice : Dice ρ) (corpus : Corpus) (h : 0 < n)

theorem stateAfter_succ (s : ρ) (k : Nat) :
    stateAfter dice corpus h s (k + 1) =
      stateAfter dice corpus h (drawMessage dice corpus h s).2 k := Function.iterate_succ_apply ..

theorem stateAfter_add (s : ρ) (k m : Nat) :
    stateAfter dice corpus h s (k + m) =
      stateAfter dice corpus h (stateAfter dice corpus h s k) m := by
  rw [Nat.add_comm]
  exact Function.iterate_add_apply ..

theorem messageAt_add (s : ρ) (k m : Nat) :
    messageAt dice corpus h s (k + m) =
      messageAt dice corpus h (stateAfter dice corpus h s k) m := by
  rw [messageAt, stateAfter_add, messageAt]

/-- The first message, and the stream that goes on from there. -/
theorem messagesOf_succ (s : ρ) (k : Nat) :
    messagesOf dice corpus h s (k + 1) =
      (drawMessage dice corpus h s).1 ::
        messagesOf dice corpus h (drawMessage dice corpus h s).2 k := by
  have hnext (i : Nat) : messageAt dice corpus h s (i + 1) =
      messageAt dice corpus h (drawMessage dice corpus h s).2 i := by
    rw [messageAt, stateAfter_succ, messageAt]
  rw [messagesOf, List.range_succ_eq_map, List.map_cons, List.map_map, messagesOf]
  exact congrArg₂ List.cons rfl (List.map_congr_left fun i _ => hnext i)

theorem messagesOf_add (s : ρ) (k m : Nat) :
    messagesOf dice corpus h s (k + m) =
      messagesOf dice corpus h s k ++
        messagesOf dice corpus h (stateAfter dice corpus h s k) m := by
  unfold messagesOf
  rw [List.range_add, List.map_append, List.map_map]
  exact congrArg _ (List.map_congr_left fun i _ => messageAt_add dice corpus h s k i)

/-- **A workload is the beginning of the stream**, and the dice are left where it goes on. -/
theorem draw_eq (count : Nat) (s : ρ) :
    draw dice corpus h count s =
      (messagesOf dice corpus h s count, stateAfter dice corpus h s count) := by
  induction count generalizing s with
  | zero => rfl
  | succ count ih =>
    rw [draw]
    dsimp only
    rw [ih, messagesOf_succ, stateAfter_succ]

theorem generate?_eq (count : Nat) (s : ρ) :
    generate? dice corpus n count s = some (messagesOf dice corpus h s count) := by
  rw [generate?_of_pos dice corpus h, draw_eq]

/-! ## Files -/

/-- The file of a workload is written message by message. -/
theorem contents_append (w w' : Workload) : contents (w ++ w') = w.contents ++ w'.contents := by
  rw [contents, List.flatMap_append, String.ofList_append, contents, contents]

/-! ## The draws of a message -/

/-- What the dice answer for one message. The answers count from 0. -/
structure Pick where
  source : Nat
  destination : Nat
  entry : Nat
  deriving DecidableEq, Repr

/-- The draws of a message of `n` clients, from a corpus of `size` entries. -/
def Pick.draws (n size : Nat) (p : Pick) : List Draw :=
  [.client n p.source, .client n p.destination, .entry size p.entry]

/-- The message that is made of the answers: they count from 0, clients count from 1. -/
structure Pick.Makes (corpus : Corpus) (p : Pick) (m : Message) : Prop where
  source : m.source = p.source + 1
  destination : m.destination = p.destination + 1
  payload : ∃ e, corpus.entries[p.entry]? = some e ∧ m.payload = sanitize e

/-- The answers for a message, and the state after them. The texts of the corpus have no part in
them. -/
def pick {size : Nat} (hsize : 0 < size) (s : ρ) : Pick × ρ :=
  let (source, s) := dice.client h s
  let (destination, s) := dice.client h s
  let (entry, s) := dice.entry hsize s
  (⟨source, destination, entry⟩, s)

/-- The answers for some messages, and the state after them. -/
def picks {size : Nat} (hsize : 0 < size) : Nat → ρ → List Pick × ρ
  | 0, s => ([], s)
  | count + 1, s =>
    let (p, s) := pick dice h hsize s
    let (ps, s) := picks hsize count s
    (p :: ps, s)

theorem length_picks {size : Nat} (hsize : 0 < size) (count : Nat) (s : ρ) :
    (picks dice h hsize count s).1.length = count := by
  induction count generalizing s with
  | zero => rfl
  | succ count ih => exact congrArg (· + 1) (ih _)

/-- A message takes three draws. -/
theorem append_draws (size : Nat) (p : Pick) (log : List Draw) :
    log ++ [.client n p.source] ++ [.client n p.destination] ++ [.entry size p.entry] =
      log ++ p.draws n size := by
  rw [List.append_assoc, List.append_assoc]
  rfl

/-- **A message is made of three answers**, and leaves the dice where they do. -/
theorem makes_drawMessage (s : ρ) :
    (pick dice h corpus.nonempty s).1.Makes corpus (drawMessage dice corpus h s).1 where
  source := rfl
  destination := rfl
  payload := ⟨_, List.getElem?_eq_getElem _, rfl⟩

theorem drawMessage_recording (s : ρ) (log : List Draw) :
    drawMessage dice.recording corpus h (s, log) =
      ((drawMessage dice corpus h s).1, (pick dice h corpus.nonempty s).2,
        log ++ (pick dice h corpus.nonempty s).1.draws n corpus.entries.length) := by
  rw [← append_draws]
  rfl

theorem makes_draw (count : Nat) (s : ρ) :
    List.Forall₂ (Pick.Makes corpus) (picks dice h corpus.nonempty count s).1
      (draw dice corpus h count s).1 := by
  induction count generalizing s with
  | zero => exact .nil
  | succ count ih => exact .cons (makes_drawMessage dice corpus h s) (ih _)

/-- **The draws of a workload** are those of its messages, one after the other. -/
theorem draw_recording (count : Nat) (s : ρ) (log : List Draw) :
    draw dice.recording corpus h count (s, log) =
      ((draw dice corpus h count s).1, (picks dice h corpus.nonempty count s).2,
        log ++ (picks dice h corpus.nonempty count s).1.flatMap
          (Pick.draws n corpus.entries.length)) := by
  induction count generalizing s log with
  | zero => rw [picks, List.flatMap_nil, List.append_nil, draw, draw]
  | succ count ih =>
    rw [draw, drawMessage_recording]
    dsimp only
    rw [ih, picks, List.flatMap_cons, ← List.append_assoc, draw]
    rfl

/-- A workload of a corpus is made of some answers, and drawing it ends in some state. Dice that
record their draws draw the same workload, and what they have recorded are these answers, message
by message. -/
structure IsMadeFrom (s : ρ) (ps : List Pick) (s' : ρ) (w : Workload) : Prop where
  generated : generate? dice corpus n ps.length s = some w
  messages : List.Forall₂ (Pick.Makes corpus) ps w
  recorded : draw dice.recording corpus h ps.length (s, []) =
    (w, s', ps.flatMap (Pick.draws n corpus.entries.length))

theorem isMadeFrom_picks (count : Nat) (s : ρ) :
    IsMadeFrom dice corpus h s (picks dice h corpus.nonempty count s).1
      (picks dice h corpus.nonempty count s).2 (draw dice corpus h count s).1 where
  generated := by rw [length_picks, generate?_of_pos dice corpus h]
  messages := makes_draw dice corpus h count s
  recorded := by rw [length_picks, draw_recording, List.nil_append]

/-- **Random workloads are a stream.** Drawing `k` messages and then a workload gives, all in all,
the workload that is drawn at once. So the file of a workload begins with the file of any shorter
one from the same state. Its messages are made of answers that the dice give to three draws a
message, for the source, the destination and the entry, in this order. The answers are the same for
all corpora of the same number of entries, and so is the state that the dice are left in. -/
theorem generate?_stream (h : 0 < n) (s : ρ) :
    (∀ k m, ∃ rest, generate? dice corpus n m (stateAfter dice corpus h s k) = some rest ∧
        generate? dice corpus n (k + m) s = some (messagesOf dice corpus h s k ++ rest)) ∧
      (∀ k m w w', k ≤ m → generate? dice corpus n k s = some w →
        generate? dice corpus n m s = some w' → ∃ rest, w'.contents = w.contents ++ rest) ∧
      ∀ k, ∃ ps s', ps.length = k ∧
        ∀ other : Corpus, other.entries.length = corpus.entries.length →
          ∃ w, IsMadeFrom dice other h s ps s' w := by
  refine ⟨fun k m => ?_, fun k m w w' hkm hw hw' => ?_, fun k => ?_⟩
  · refine ⟨_, generate?_eq dice corpus h m _, ?_⟩
    rw [generate?_eq dice corpus h, messagesOf_add]
  · obtain ⟨d, rfl⟩ := Nat.exists_eq_add_of_le hkm
    rw [generate?_eq dice corpus h] at hw hw'
    cases hw
    cases hw'
    exact ⟨_, by rw [messagesOf_add, contents_append]⟩
  · refine ⟨(picks dice h corpus.nonempty k s).1, (picks dice h corpus.nonempty k s).2,
      length_picks .., fun other hsize => ?_⟩
    have hsame : picks dice h corpus.nonempty k s = picks dice h other.nonempty k s := by
      congr 1
      exact hsize.symm
    rw [hsame]
    exact ⟨_, isMadeFrom_picks dice other h k s⟩

/-- Four messages between three clients begin with the two that are drawn from the same seed, and
the answers for them are those for another corpus of two entries. -/
theorem generate?_stream_of_seed :
    let dice := ChaCha.dice.toDice
    let start := ChaCha.dice.ofSeed 7
    let corpus : Corpus := ⟨["a:b", "c"], by decide⟩
    let other : Corpus := ⟨["x", "y z"], by decide⟩
    let two : Workload := [⟨2, 1, "a-b"⟩, ⟨2, 3, "c"⟩]
    let four : Workload := two ++ [⟨1, 3, "c"⟩, ⟨2, 1, "a-b"⟩]
    ∃ h : 0 < 3, generate? dice corpus 3 2 start = some two ∧
      generate? dice corpus 3 4 start = some four ∧
      (∃ rest, generate? dice corpus 3 2 (stateAfter dice corpus h start 2) = some rest ∧
        some four = some (messagesOf dice corpus h start 2 ++ rest)) ∧
      (∃ rest, four.contents = two.contents ++ rest) ∧
      ∃ ps s', ps.length = 4 ∧ IsMadeFrom dice corpus h start ps s' four ∧
        ∃ w, IsMadeFrom dice other h start ps s' w := by
  intro dice start corpus other two four
  have h : 0 < 3 := by decide
  have htwo : generate? dice corpus 3 2 start = some two := by decide +kernel
  have hfour : generate? dice corpus 3 4 start = some four := by decide +kernel
  obtain ⟨hrest, hfile, hpicks⟩ := generate?_stream dice corpus h start
  obtain ⟨rest, hnext, hall⟩ := hrest 2 2
  obtain ⟨ps, s', hlength, hmade⟩ := hpicks 4
  obtain ⟨w, hw⟩ := hmade corpus rfl
  have hsame : w = four := by
    have hgenerated := hw.generated
    rw [hlength, hfour] at hgenerated
    exact (Option.some.inj hgenerated).symm
  exact ⟨h, htwo, hfour, ⟨rest, hnext, hfour.symm.trans hall⟩,
    hfile 2 4 two four (by decide) htwo hfour, ps, s', hlength, hsame ▸ hw, hmade other rfl⟩

end Workload
end Autograder

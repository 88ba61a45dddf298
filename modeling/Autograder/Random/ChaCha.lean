/-
# A seeded stream of random words

The stream cipher ChaCha with 12 rounds, used as a random generator: a 64-bit seed is expanded to
the 256-bit key by a permuted congruential generator, the block counter starts at 0, and the words
of the blocks are handed out in order.
-/

import Autograder.Random.Dice

namespace Autograder
namespace ChaCha

/-- A rotation to the left. -/
def rotl (x k : UInt32) : UInt32 := (x <<< k) ||| (x >>> (32 - k))

/-- A rotation to the right. -/
def rotr (x k : UInt32) : UInt32 := (x >>> k) ||| (x <<< ((32 - k) % 32))

/-- One step of the generator that expands a seed. -/
def seedStep (s : UInt64) : UInt64 := s * 6364136223846793005 + 11634580027462260723

/-- The word that a state of that generator gives. -/
def seedWord (s : UInt64) : UInt32 :=
  rotr (((s >>> 18) ^^^ s) >>> 27).toUInt32 (s >>> 59).toUInt32

/-- The next `n` words of a seed. -/
def expand : Nat → UInt64 → List UInt32
  | 0, _ => []
  | n + 1, s => seedWord (seedStep s) :: expand n (seedStep s)

/-- The sixteen words of a block. -/
abbrev Block := Vector UInt32 16

/-- A quarter round on the four words at the given places. -/
def quarterRound (a b c d : Fin 16) (v : Block) : Block :=
  let v := v.set a (v[a] + v[b])
  let v := v.set d (rotl (v[d] ^^^ v[a]) 16)
  let v := v.set c (v[c] + v[d])
  let v := v.set b (rotl (v[b] ^^^ v[c]) 12)
  let v := v.set a (v[a] + v[b])
  let v := v.set d (rotl (v[d] ^^^ v[a]) 8)
  let v := v.set c (v[c] + v[d])
  v.set b (rotl (v[b] ^^^ v[c]) 7)

/-- A round on the columns and a round on the diagonals. -/
def doubleRound (v : Block) : Block :=
  let v := quarterRound 0 4 8 12 v
  let v := quarterRound 1 5 9 13 v
  let v := quarterRound 2 6 10 14 v
  let v := quarterRound 3 7 11 15 v
  let v := quarterRound 0 5 10 15 v
  let v := quarterRound 1 6 11 12 v
  let v := quarterRound 2 7 8 13 v
  quarterRound 3 4 9 14 v

/-- Six double rounds. -/
def rounds (v : Block) : Block := (List.range 6).foldl (fun v _ => doubleRound v) v

/-- The block that the rounds start from: four constants, the key, the counter and zeros. -/
def initial (key : List UInt32) (counter : UInt64) : Block :=
  let k (i : Nat) : UInt32 := key.getD i 0
  #v[0x61707865, 0x3320646e, 0x79622d32, 0x6b206574,
    k 0, k 1, k 2, k 3, k 4, k 5, k 6, k 7,
    counter.toUInt32, (counter >>> 32).toUInt32, 0, 0]

/-- The words of a block of the stream. -/
def block (key : List UInt32) (counter : UInt64) : List UInt32 :=
  let start := initial key counter
  (List.zipWith (· + ·) (rounds start).toList start.toList)

/-- A stream of words: its key, the number of the next block, and the words at hand. -/
structure Stream where
  key : List UInt32
  counter : UInt64
  ready : List UInt32

/-- The stream of a seed. -/
def Stream.ofSeed (seed : UInt64) : Stream := ⟨expand 8 seed, 0, []⟩

/-- The next word. -/
def Stream.next (s : Stream) : UInt32 × Stream :=
  match s.ready with
  | w :: ws => (w, { s with ready := ws })
  | [] =>
    match block s.key s.counter with
    | w :: ws => (w, ⟨s.key, s.counter + 1, ws⟩)
    | [] => (0, s)

/-- The next word of 32 bits. -/
def Stream.next32 (s : Stream) : Nat × Stream :=
  let (w, s) := s.next
  (w.toNat, s)

/-- The next word of 64 bits: two words, the low one first. -/
def Stream.next64 (s : Stream) : Nat × Stream :=
  let (low, s) := s.next
  let (high, s) := s.next
  (low.toNat + Nat.pow 2 32 * high.toNat, s)

/-- The largest low half of a product that is accepted: a draw above it would make some of the `n`
answers likelier than others. -/
def zone (bits n : Nat) : Nat := n * Nat.pow 2 (bits - 1 - Nat.log2 n) - 1

/-- A number below `n`: the high half of `n` times a word. A product whose low half is outside the
zone is drawn again, up to `tries` times. -/
def below (bits : Nat) (next : Stream → Nat × Stream) {n : Nat} (h : 0 < n) :
    Nat → Stream → Fin n × Stream
  | 0, s => (⟨0, h⟩, s)
  | tries + 1, s =>
    let (v, s) := next s
    let product := v * n
    if product % Nat.pow 2 bits ≤ zone bits n then (⟨product / Nat.pow 2 bits % n, Nat.mod_lt _ h⟩, s)
    else below bits next h tries s

/-- Draws from the stream. A draw is refused with a chance below one half, so a thousand refusals
in a row do not happen. -/
def dice : SeededDice Stream where
  client h s := below 32 Stream.next32 h 1000 s
  entry h s := below 64 Stream.next64 h 1000 s
  ofSeed := Stream.ofSeed

end ChaCha
end Autograder

/-
# Random workloads

The source, the destination and the payload of each message are drawn independently, in this
order. Clients may send to themselves. The draws alone decide the workload: the same dice in the
same state give the same file.
-/

import Autograder.Corpus
import Autograder.Message
import Autograder.Random.Dice

namespace Autograder
namespace Workload

variable {ρ : Type}

/-- A client number from 1 to `clients`. -/
def drawClient (dice : Dice ρ) {clients : Nat} (h : 0 < clients) (s : ρ) : Nat × ρ :=
  let (i, s) := dice.client h s
  (i.val + 1, s)

/-- An entry of a corpus. -/
def drawEntry (dice : Dice ρ) (corpus : Corpus) (s : ρ) : String × ρ :=
  let (i, s) := dice.entry corpus.nonempty s
  (corpus.entries[i], s)

/-- The next message. -/
def drawMessage (dice : Dice ρ) (corpus : Corpus) {clients : Nat} (h : 0 < clients) (s : ρ) :
    Message × ρ :=
  let (source, s) := drawClient dice h s
  let (destination, s) := drawClient dice h s
  let (raw, s) := drawEntry dice corpus s
  (Message.ofText source destination raw, s)

/-- The next `count` messages. -/
def draw (dice : Dice ρ) (corpus : Corpus) {clients : Nat} (h : 0 < clients) :
    Nat → ρ → Workload × ρ
  | 0, s => ([], s)
  | count + 1, s =>
    let (m, s) := drawMessage dice corpus h s
    let (w, s) := draw dice corpus h count s
    (m :: w, s)

/-- A workload of `count` messages; `none` if there are no clients to send them. -/
def generate? (dice : Dice ρ) (corpus : Corpus) (clients count : Nat) (s : ρ) : Option Workload :=
  if h : 0 < clients then some (draw dice corpus h count s).1 else none

end Workload
end Autograder

/-
# Text from bytes that may not be text

Bytes are read as UTF-8. Each longest run of bytes that starts a character without finishing it,
and each byte that cannot start one, is read as one replacement character.
-/

namespace Autograder
namespace Text

/-- A character that has been begun: how many bytes it lacks, the bounds of the next of them, and
the bits it has so far. With `lacking = 0` no character has been begun. -/
structure Begun where
  lacking : Nat
  low : Nat
  high : Nat
  bits : Nat

/-- Between two characters. -/
def Begun.none : Begun := ⟨0, 0, 0, 0⟩

/-- Shown for bytes that are no character. -/
def replacement : Char := '\uFFFD'

/-- The first byte of a character: what it completes, and what it begins. -/
def Begun.start (b : Nat) : List Char × Begun :=
  if b < 0x80 then ([Char.ofNat b], .none)
  else if 0xC2 ≤ b && b ≤ 0xDF then ([], ⟨1, 0x80, 0xBF, b - 0xC0⟩)
  else if b == 0xE0 then ([], ⟨2, 0xA0, 0xBF, 0⟩)
  else if b == 0xED then ([], ⟨2, 0x80, 0x9F, 0xD⟩)
  else if 0xE1 ≤ b && b ≤ 0xEF then ([], ⟨2, 0x80, 0xBF, b - 0xE0⟩)
  else if b == 0xF0 then ([], ⟨3, 0x90, 0xBF, 0⟩)
  else if 0xF1 ≤ b && b ≤ 0xF3 then ([], ⟨3, 0x80, 0xBF, b - 0xF0⟩)
  else if b == 0xF4 then ([], ⟨3, 0x80, 0x8F, 4⟩)
  else ([replacement], .none)

/-- One more byte: a character that it does not continue is given up, and the byte starts anew. -/
def Begun.push (p : Begun) (b : Nat) : List Char × Begun :=
  if p.lacking = 0 then start b
  else if p.low ≤ b && b ≤ p.high then
    let bits := p.bits * 64 + b % 64
    if p.lacking = 1 then ([Char.ofNat bits], .none) else ([], ⟨p.lacking - 1, 0x80, 0xBF, bits⟩)
  else
    let (cs, q) := start b
    (replacement :: cs, q)

/-- The characters of `bytes` after those of `done`, which stand in reverse. -/
def lossyFrom (done : List Char) (p : Begun) : List UInt8 → List Char
  | [] => (if p.lacking = 0 then done else replacement :: done).reverse
  | b :: bytes =>
    let (cs, q) := p.push b.toNat
    lossyFrom (cs.reverse ++ done) q bytes

/-- Bytes read as text, whatever they are. -/
def lossy (bytes : List UInt8) : String := String.ofList (lossyFrom [] .none bytes)

end Text
end Autograder

/-
# Bounded random draws

Whoever draws at random asks for a number below a positive bound. The answer is below the bound by
its type, and no draw can be asked for that has no answer.
-/

namespace Autograder

/-- A source of random draws whose state is a `ρ`. Client numbers are drawn from words of 32 bits
and corpus entries from words of 64 bits, so there are two kinds of draw. -/
structure Dice (ρ : Type) where
  client : {n : Nat} → 0 < n → ρ → Fin n × ρ
  entry : {n : Nat} → 0 < n → ρ → Fin n × ρ

/-- Dice whose first state is made from a seed. -/
structure SeededDice (ρ : Type) extends Dice ρ where
  ofSeed : UInt64 → ρ

end Autograder

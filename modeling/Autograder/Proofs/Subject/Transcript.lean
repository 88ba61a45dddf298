/-
# What a subject was asked, and what it answered

A bench keeps the requests that were made, but not the answers. As a subject answers a request from
the files and its own state alone, the answers can be had again from the bench before the requests
(`transcript`). So the benches before and after some requests are enough to tell what was asked and
answered in between (`log`). `Asks` is the same, one request after the other, and the form in which
a log is built up (`Asks.log_eq`).
-/

import Autograder.Subject

namespace Autograder
namespace Bench

variable {σ : Type}

/-- Makes a request of either kind. -/
def ask (b : Bench σ) (subject : Subject σ) : Call → RunResult × Bench σ
  | .build args => b.build subject args
  | .run program args limit => b.run subject program args limit

/-- Some requests with the answers to them, if they are made one after the other. -/
def transcript (subject : Subject σ) : Bench σ → List Call → List (Call × RunResult)
  | _, [] => []
  | b, c :: cs => (c, (b.ask subject c).1) :: transcript subject (b.ask subject c).2 cs

/-- What the subject was asked between two benches, and what it answered. -/
def log (subject : Subject σ) (b b' : Bench σ) : List (Call × RunResult) :=
  transcript subject b (b'.calls.drop b.calls.length)

/-- The second bench is reached from the first by these requests alone, with these answers. -/
inductive Asks (subject : Subject σ) : Bench σ → List (Call × RunResult) → Bench σ → Prop
  | refl (b : Bench σ) : Asks subject b [] b
  | ask {b b' : Bench σ} {rest : List (Call × RunResult)} (c : Call) :
      Asks subject (b.ask subject c).2 rest b' →
      Asks subject b ((c, (b.ask subject c).1) :: rest) b'

variable {subject : Subject σ} {b b' : Bench σ} {l : List (Call × RunResult)}

/-- Each request is kept, after those before it. -/
theorem calls_ask (subject : Subject σ) (b : Bench σ) (c : Call) :
    (b.ask subject c).2.calls = b.calls ++ [c] := by
  cases c <;> rfl

theorem Asks.calls_eq (h : Asks subject b l b') : b'.calls = b.calls ++ l.map Prod.fst := by
  induction h with
  | refl b => exact (List.append_nil _).symm
  | ask c _ ih => rw [ih, calls_ask, List.append_assoc, List.singleton_append, List.map_cons]

theorem Asks.transcript_eq (h : Asks subject b l b') :
    transcript subject b (l.map Prod.fst) = l := by
  induction h with
  | refl b => rfl
  | ask c _ ih => rw [List.map_cons, transcript, ih]

/-- **The benches before and after tell what was asked and answered.** -/
theorem Asks.log_eq (h : Asks subject b l b') : log subject b b' = l := by
  rw [log, h.calls_eq, List.drop_left, h.transcript_eq]

end Bench
end Autograder

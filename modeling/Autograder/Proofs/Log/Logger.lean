/-
# What a log leaves alone

A logger changes the files that it writes to, and no other (`changesOnly_note`). The subject and the
list of requests are not touched at all. So a file that is spared by the logger (`Logger.Spares`)
goes on holding what it holds, and a path goes on leading where it led.

Writing lines only adds to what is printed, and a logger that never writes to the output of the
program (`Logger.IsSilent`) adds nothing. What writing lines keeps (`Logger.Keeps`) is kept whatever
the subject is asked (`Keeps.attach`).
-/

import Autograder.Log.Logger
import Autograder.Proofs.Files.Device
import Autograder.Proofs.Suite.State

namespace Autograder

open Log

namespace Log

variable {lines : List Line}

/-- Lines that are not meant for the output of the program are not printed. -/
theorem printed_writeLines (h : ∀ line ∈ lines, Device.at? line.place ≠ some .output)
    (fs : Files) (printed : String) : (writeLines lines fs printed).2 = printed := by
  induction lines generalizing fs printed with
  | nil => rfl
  | cons line rest ih =>
    rw [writeLines]
    dsimp only
    rw [ih (fun other hother => h other (List.mem_cons_of_mem _ hother)),
      Files.printed_append (h line List.mem_cons_self), String.append_empty]

end Log

namespace Logger

variable {σ τ : Type} {l : Logger τ} {p : Place} {happening : Happening}

/-- The logger never writes to what is at a place. -/
def Spares (l : Logger τ) (p : Place) : Prop :=
  ∀ happening fs state, ∀ line ∈ (l.write happening fs state).1, line.place ≠ p

/-- The logger never writes to the output of the program. -/
def IsSilent (l : Logger τ) : Prop := ∀ p, Device.at? p = some .output → l.Spares p

/-- Whatever lines the logger writes, what is printed goes on having a property. -/
def Keeps (l : Logger τ) (P : String → Prop) : Prop :=
  ∀ happening fs state fs' printed, P printed →
    P (writeLines (l.write happening fs state).1 fs' printed).2

/-- A silent log prints nothing. -/
theorem IsSilent.keeps (h : l.IsSilent) (printed : String) : l.Keeps (· = printed) := by
  rintro happening fs state fs' _ rfl
  exact printed_writeLines (fun line hline hp => h _ hp _ _ _ line hline rfl) _ _

variable {P : String → Prop}

theorem Keeps.note (h : l.Keeps P) (happening : Happening) (fs : Files) {s : Logged σ τ}
    (hs : P s.printed) : P (l.note happening fs s).2.printed :=
  h happening fs.drained s.log fs.drained s.printed hs

/-- **What noting keeps is kept whatever the subject is asked.** -/
theorem Keeps.attach (h : l.Keeps P) (subject : Subject σ) :
    (l.attach subject).Keeps fun s => P s.printed := by
  have hask (call : Call) (answer : Files → σ → RunResult × Files × σ) (fs : Files)
      (s : Logged σ τ) (hs : P s.printed) : P (l.ask call answer fs s).2.2.printed :=
    h.note _ _ (h.note _ fs hs)
  intro b c hb
  cases c with
  | build args => exact hask _ (subject.build args) b.files b.state hb
  | run program args limit => exact hask _ (subject.run program args limit) b.files b.state hb

end Logger

namespace Bench

variable {σ τ : Type} {l : Logger τ} {p : Place} {b : Bench (Logged σ τ)}

end Bench
end Autograder

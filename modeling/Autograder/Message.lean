/-
# Messages and workloads

A workload is the list of messages that the clients of an exchange send to each other. On the wire
a message is one line, `source destination payload`, and the program under test prints it as
`destination: payload`. `wireSafe` makes any text a payload that survives both forms.
-/

import Autograder.Text.Blank

namespace Autograder

/-- A payload has at most this many characters. -/
def maxPayloadChars : Nat := 998

/-- A message from one client to another. Clients are numbered from 1. -/
structure Message where
  source : Nat
  destination : Nat
  payload : String
  deriving DecidableEq, Repr

/-- A character of a payload: a line feed becomes a space, and the colon, which ends the
destination on an output line, becomes a dash. -/
def wireChar (c : Char) : Char :=
  if c = '\n' then ' ' else if c = ':' then '-' else c

/-- The payload made of a text: carriage returns are dropped, the rest is cut to the longest
allowed length, and then the blanks at both ends go. -/
def wireSafe (raw : List Char) : List Char :=
  Text.trim (((raw.filter (· != '\r')).map wireChar).take maxPayloadChars)

/-- The payload made of a string. -/
def sanitize (raw : String) : String := String.ofList (wireSafe raw.toList)

namespace Message

/-- The message that carries a text. -/
def ofText (source destination : Nat) (raw : String) : Message :=
  ⟨source, destination, sanitize raw⟩

/-- The line of a message in a workload file, without its end. -/
def line (m : Message) : List Char :=
  Nat.toDigits 10 m.source ++ ' ' :: (Nat.toDigits 10 m.destination ++ ' ' :: m.payload.toList)

end Message

/-- The messages of an exchange, in the order in which they are sent. -/
abbrev Workload := List Message

namespace Workload

/-- A workload file: one line for each message. -/
def contents (w : Workload) : String := String.ofList (w.flatMap fun m => m.line ++ ['\n'])

end Workload
end Autograder

/-
# Reading a workload file

Each line that is not blank holds a source, a destination and possibly a payload, separated by
single spaces. The first line that does not fit is an error of the whole file. Lines are counted
from 1, and blank ones count too.
-/

import Autograder.Message
import Autograder.Text.Decimal
import Autograder.Text.Lines
import Autograder.Text.Quoted

namespace Autograder

/-- What is wrong with a client number. -/
inductive ClientFault where
  | notDecimal
  | outside (client : Nat)
  deriving DecidableEq, Repr

/-- A client number: a decimal number of at most 32 bits, from 1 to the number of clients. -/
def readClient (clients : Nat) (s : List Char) : Except ClientFault Nat :=
  match Text.readNat? Text.maxUInt32 s with
  | none => .error .notDecimal
  | some client => if client = 0 ∨ clients < client then .error (.outside client) else .ok client

/-- The fault of the client number called `field`, in words. -/
def ClientFault.message (field : String) (clients : Nat) : ClientFault → String
  | .notDecimal => field ++ " is not a decimal client id"
  | .outside client => field ++ " " ++ toString client ++ " outside 1..=" ++ toString clients

/-- The two client numbers of a message. -/
inductive End where
  | source
  | destination
  deriving DecidableEq, Repr

/-- What the end of a message is called. -/
def End.name : End → String
  | .source => "source"
  | .destination => "destination"

/-- What is wrong with a line of a workload file. -/
inductive WorkloadFault where
  | missingDestination
  | client (of : End) (fault : ClientFault)
  deriving DecidableEq, Repr

/-- The fault in words. -/
def WorkloadFault.message (clients : Nat) : WorkloadFault → String
  | .missingDestination => "missing destination"
  | .client of fault => fault.message of.name clients

/-- A line that does not fit its format: its number, its text, and what is wrong with it. -/
structure BadLine (Fault : Type) where
  number : Nat
  text : String
  fault : Fault
  deriving DecidableEq, Repr

/-- The error of a workload line, in words. -/
def BadLine.workloadMessage (clients : Nat) (e : BadLine WorkloadFault) : String :=
  "workload line " ++ toString e.number ++ ": " ++ e.fault.message clients ++ ": " ++
    Text.quoted e.text

namespace Workload

/-- One line of a workload file. The source is looked at before the destination, and the payload
is trimmed. -/
def readFields (clients : Nat) (text : List Char) : Except WorkloadFault Message :=
  match Text.splitAtFirst ' ' text with
  | none => .error .missingDestination
  | some (source, rest) =>
    let (destination, payload) := (Text.splitAtFirst ' ' rest).getD (rest, [])
    match readClient clients source, readClient clients destination with
    | .error fault, _ => .error (.client .source fault)
    | .ok _, .error fault => .error (.client .destination fault)
    | .ok s, .ok d => .ok ⟨s, d, String.ofList (Text.trim payload)⟩

/-- One line of a workload file, whose number goes into the error. -/
def readLine (clients : Nat) (text : List Char) (number : Nat) :
    Except (BadLine WorkloadFault) Message :=
  match readFields clients text with
  | .ok m => .ok m
  | .error fault => .error ⟨number, String.ofList text, fault⟩

/-- The messages of numbered lines, of which blank ones are skipped. -/
def readLines (clients : Nat) :
    List (List Char × Nat) → Except (BadLine WorkloadFault) Workload
  | [] => .ok []
  | (text, number) :: rest =>
    if Text.isAllBlank text then readLines clients rest
    else
      match readLine clients text number with
      | .error e => .error e
      | .ok m =>
        match readLines clients rest with
        | .error e => .error e
        | .ok w => .ok (m :: w)

/-- The workload that a file holds. -/
def read (clients : Nat) (contents : String) : Except (BadLine WorkloadFault) Workload :=
  readLines clients (Text.numberedLines contents.toList)

end Workload
end Autograder

/-
# What the program under test delivered

Each line of its output that is not empty must be `destination:payload`. Blanks around the
destination and the payload do not count. The first line that does not fit is an error of the
whole output: a skipped line would pass for a lost message.
-/

import Autograder.Buckets
import Autograder.Workload.Reader

namespace Autograder

/-- What is wrong with a line of output. -/
inductive OutputFault where
  | missingColon
  | destination (fault : ClientFault)
  deriving DecidableEq, Repr

/-- The fault in words. -/
def OutputFault.message (clients : Nat) : OutputFault → String
  | .missingColon => "missing ':' delimiter"
  | .destination fault => fault.message "destination" clients

/-- The error of an output line, in words. -/
def BadLine.outputMessage (clients : Nat) (e : BadLine OutputFault) : String :=
  "output line " ++ toString e.number ++ ": " ++ e.fault.message clients ++ ": " ++
    Text.quoted e.text

/-- A payload, and the client that received it. -/
structure Delivery where
  client : Nat
  payload : String
  deriving DecidableEq, Repr

namespace Delivery

/-- One line of output. -/
def readFields (clients : Nat) (text : List Char) : Except OutputFault Delivery :=
  match Text.splitAtFirst ':' text with
  | none => .error .missingColon
  | some (destination, payload) =>
    match readClient clients (Text.trim destination) with
    | .error fault => .error (.destination fault)
    | .ok client => .ok ⟨client, String.ofList (Text.trim payload)⟩

/-- One line of output, whose number goes into the error. -/
def readLine (clients : Nat) (text : List Char) (number : Nat) :
    Except (BadLine OutputFault) Delivery :=
  match readFields clients text with
  | .ok d => .ok d
  | .error fault => .error ⟨number, String.ofList text, fault⟩

/-- The deliveries of numbered lines, of which empty ones are skipped. -/
def readLines (clients : Nat) :
    List (List Char × Nat) → Except (BadLine OutputFault) (List Delivery)
  | [] => .ok []
  | (text, number) :: rest =>
    if text.isEmpty then readLines clients rest
    else
      match readLine clients text number with
      | .error e => .error e
      | .ok d =>
        match readLines clients rest with
        | .error e => .error e
        | .ok ds => .ok (d :: ds)

end Delivery

namespace BucketSet

/-- The deliveries sorted into buckets. -/
def ofDeliveries (clients : Nat) (ds : List Delivery) : BucketSet :=
  (ds.foldl (fun s d => s.deliver d.client d.payload) (empty clients)).normalize

/-- What an output says that the clients received. -/
def readOutput (clients : Nat) (stdout : String) : Except (BadLine OutputFault) BucketSet :=
  match Delivery.readLines clients (Text.numberedLines stdout.toList) with
  | .error e => .error e
  | .ok ds => .ok (ofDeliveries clients ds)

end BucketSet
end Autograder

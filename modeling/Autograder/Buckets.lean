/-
# Buckets

What each client has received, or should receive. The order in which payloads arrive does not
matter, so two bucket sets are compared only after `normalize`, which sorts each bucket.
-/

import Autograder.Message

namespace Autograder

/-- The payloads delivered to each client, client 1 first. -/
structure BucketSet where
  buckets : List (List String)
  deriving DecidableEq, Repr

namespace BucketSet

/-- No payload for any of `clients` clients. -/
def empty (clients : Nat) : BucketSet := ⟨List.replicate clients []⟩

/-- The number of clients. -/
def clientCount (s : BucketSet) : Nat := s.buckets.length

/-- There is a client of this number. -/
def hasClient (s : BucketSet) (client : Nat) : Bool := 1 ≤ client && client ≤ s.clientCount

/-- One more payload for a client; `none` if there is no such client. -/
def deliver? (s : BucketSet) (client : Nat) (payload : String) : Option BucketSet :=
  if s.hasClient client then some ⟨s.buckets.modify (client - 1) (· ++ [payload])⟩ else none

/-- One more payload for a client; nothing happens if there is no such client. -/
def deliver (s : BucketSet) (client : Nat) (payload : String) : BucketSet :=
  (s.deliver? client payload).getD s

/-- Each bucket sorted, by the numbers of the characters. -/
def normalize (s : BucketSet) : BucketSet :=
  ⟨s.buckets.map fun b => b.mergeSort fun x y => decide (x ≤ y)⟩

/-- The payloads of a client, none if there is no such client. -/
def bucket (s : BucketSet) (client : Nat) : List String :=
  if s.hasClient client then s.buckets.getD (client - 1) [] else []

/-- The clients in order, each with its payloads. -/
def entries (s : BucketSet) : List (Nat × List String) :=
  (s.buckets.zipIdx 1).map fun (b, client) => (client, b)

/-- The number of payloads in all buckets. -/
def total (s : BucketSet) : Nat := s.buckets.flatten.length

/-- What the clients should receive when a workload is sent. The sources play no part. -/
def ofWorkload (clients : Nat) (w : Workload) : BucketSet :=
  (w.foldl (fun s m => s.deliver m.destination m.payload) (empty clients)).normalize

end BucketSet
end Autograder

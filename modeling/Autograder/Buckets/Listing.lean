/-
# A listing of buckets

The text that is kept beside the output of the program under test, for comparison by hand.
-/

import Autograder.Buckets

namespace Autograder
namespace BucketSet

/-- The lines of one client: a heading, and a line for each payload. -/
def listingOf (client : Nat) (payloads : List String) : List Char :=
  "Client ".toList ++ Nat.toDigits 10 client ++ " received:\n".toList ++
    payloads.flatMap fun p => "  - ".toList ++ p.toList ++ ['\n']

/-- The listing of all clients in order. -/
def listing (s : BucketSet) : String :=
  String.ofList (s.entries.flatMap fun (client, payloads) => listingOf client payloads)

end BucketSet
end Autograder

/-
# What is kept of an exchange

The two output streams of the program under test and a listing of what should have been delivered
are written side by side into one directory, so that they can be compared by hand.
-/

import Autograder.Buckets.Listing
import Autograder.Files.Tree

namespace Autograder
namespace Artifacts

/-- The names of the files and what they hold. -/
def contents (stdout stderr : String) (expected : BucketSet) : List (String × String) :=
  [("stdout.txt", stdout), ("stderr.txt", stderr), ("expected.txt", expected.listing)]

/-- Writes files into a directory, one after the other, up to the first that cannot be written. -/
def writeAll (fs : Files) (directory : String) :
    List (String × String) → Except FileError (List String) × Files
  | [] => (.ok [], fs)
  | (name, text) :: rest =>
    let path := Path.join directory name
    match fs.writeText path text with
    | .error e => (.error e, fs)
    | .ok fs =>
      match writeAll fs directory rest with
      | (.error e, fs) => (.error e, fs)
      | (.ok paths, fs) => (.ok (path :: paths), fs)

/-- Makes the directory and writes the files; gives their paths. -/
def write (fs : Files) (directory stdout stderr : String) (expected : BucketSet) :
    Except FileError (List String) × Files :=
  match fs.makeDirectories directory with
  | (.error e, fs) => (.error e, fs)
  | (.ok (), fs) => writeAll fs directory (contents stdout stderr expected)

end Artifacts
end Autograder

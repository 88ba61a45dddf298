/-
# Workload files

A workload is written to a file and read back from it, by the program under test and by the grader
alike. A random workload is drawn from a seeded source.
-/

import Autograder.Files.Tree
import Autograder.Workload.Generator
import Autograder.Workload.Reader

namespace Autograder

/-- Why there is no workload. The number of clients goes into the wording of a bad line. -/
inductive WorkloadError where
  | noClients
  | badLine (clients : Nat) (error : BadLine WorkloadFault)
  | file (path : String) (error : FileError)
  deriving DecidableEq, Repr

namespace WorkloadError

/-- The error in words. -/
def message : WorkloadError → String
  | .noClients => "client count must be at least 1"
  | .badLine clients error => error.workloadMessage clients
  | .file path error => "workload file " ++ path ++ ": " ++ error.message

end WorkloadError

namespace Workload

/-- The files after a workload is written to one of them. -/
def write (fs : Files) (path : String) (w : Workload) : Except WorkloadError Files :=
  match fs.writeText path w.contents with
  | .ok fs => .ok fs
  | .error error => .error (.file path error)

/-- The workload that a file holds. No file is looked at when there are no clients. -/
def load (fs : Files) (clients : Nat) (path : String) : Except WorkloadError Workload :=
  if clients = 0 then .error .noClients
  else
    match fs.readText path with
    | .error error => .error (.file path error)
    | .ok text =>
      match read clients text with
      | .error error => .error (.badLine clients error)
      | .ok w => .ok w

end Workload
end Autograder

/-
# The log file

The grader keeps a log, and does not start without one. Its file is opened in the configured
directory, which is made if it is missing. A log that is kept by the day or by the hour has the date
in the name of its file.
-/

import Autograder.Config
import Autograder.Files.Device
import Autograder.Report.Timestamp

namespace Autograder
namespace Log

/-- The date, and with `hours` the hour, in the name of a log file. -/
def dateText (hours : Bool) (time : Instant) : String :=
  let (year, month, day) := Instant.date (time.seconds.fdiv 86400)
  let hour := (time.seconds.fmod 86400).toNat / 3600
  Instant.yearText year ++ "-" ++ Instant.padded 2 month ++ "-" ++ Instant.padded 2 day ++
    (if hours then "-" ++ Instant.padded 2 hour else "")

/-- The name of the log file. A log without a name of its own is named for the date. -/
def fileName (c : Config) (time : Instant) : String :=
  let date :=
    if c.rotation = "hourly" then some (dateText true time)
    else if c.rotation = "daily" || c.logFile.isEmpty then some (dateText false time)
    else none
  match date with
  | some date => if c.logFile.isEmpty then date else c.logFile ++ "." ++ date
  | none => c.logFile

/-- The path of the log file. -/
def path (c : Config) (time : Instant) : String := Path.join c.logDirectory (fileName c time)

/-- The place of what is at a path, and the tree with a file there, whose bytes stay if it is there
already. -/
def opened (fs : Files) (path : String) : Except FileError (Place × Files) :=
  (fs.outlet path).map fun p =>
    match Device.at? p, fs.node? p with
    | none, none => (p, fs.putBytes p .empty)
    | _, _ => (p, fs)

/-- The place of the log file, or why it cannot be opened, and the tree with it. -/
def start (c : Config) (time : Instant) (fs : Files) : Except FileError Place × Files :=
  let path := path c time
  match opened fs path with
  | .ok (place, fs) => (.ok place, fs)
  | .error _ =>
    match fs.makeDirectories (Path.parent path) with
    | (.error e, fs) => (.error e, fs)
    | (.ok (), fs) =>
      match opened fs path with
      | .ok (place, fs) => (.ok place, fs)
      | .error e => (.error e, fs)

end Log
end Autograder

/-
# The command

Reads the files below the current directory, grades, writes the files that have changed, and prints
the summary.
-/

import Autograder.Grader
import Autograder.Process
import Autograder.Random.ChaCha

namespace Autograder
namespace Main

/-- A file that says what runs it is a program. -/
def isProgram (bytes : ByteArray) : Bool := bytes.toList.take 2 == ['#', '!'].map Char.toUInt8

/-- The files with what stands at an entry of a directory. -/
partial def addEntry (above : Place) (files : Files) (entry : IO.FS.DirEntry) : IO Files := do
  let place := entry.fileName :: above
  let add (node : FileNode) : Files := { files with nodes := (place, node) :: files.nodes }
  if ← entry.path.isDir then
    (← entry.path.readDir).foldlM (addEntry place) (add .directory)
  else
    let bytes ← IO.FS.readBinFile entry.path
    pure (add (.file bytes (isProgram bytes)))

/-- The files below the current directory. -/
def snapshot : IO Files := do
  let directory ← IO.currentDir
  let here := (Path.names directory.toString).reverse
  (← directory.readDir).foldlM (addEntry here) (.startingAt here)

/-- The path of a place. -/
def pathOf (place : Place) : String := Path.ofNames place.reverse

/-- Makes the files what they have become. -/
def store (before after : Files) : IO Unit := do
  for (place, node) in before.nodes do
    match node, after.node? place with
    | .file _ _, none => IO.FS.removeFile (pathOf place)
    | _, _ => pure ()
  for (place, node) in after.nodes do
    match node, before.node? place with
    | .directory, _ => IO.FS.createDirAll (pathOf place)
    | .file bytes _, some (.file old _) =>
      if bytes != old then IO.FS.writeBinFile (pathOf place) bytes
    | .file bytes _, _ => do
      IO.FS.createDirAll (pathOf place.tail)
      IO.FS.writeBinFile (pathOf place) bytes

/-- The time at which a file that is made now is made. -/
def now : IO Instant := do
  let (_, path) ← IO.FS.createTempFile
  let time := (← path.metadata).modified
  IO.FS.removeFile path
  pure ⟨time.sec, time.nsec.toNat⟩

/-- The number of cores that the system tells of. -/
def cores : IO Nat := do
  try
    let lines ← IO.FS.lines "/proc/cpuinfo"
    pure (max 1 (lines.toList.countP fun line => "processor".toList.isPrefixOf line.toList))
  catch _ => pure 1

/-- A number that no one can foresee. -/
def anySeed : IO UInt64 := do
  let bytes ← IO.getRandomBytes 8
  pure (bytes.toList.foldl (fun n b => n * 256 + b.toUInt64) 0)

end Main
end Autograder

open Autograder in
def main (args : List String) : IO UInt32 := do
  let files ← Main.snapshot
  let host : Host := ⟨← Main.cores, ← Main.anySeed, ← Main.now⟩
  let ended := Grader.start (fun c => (Workshop.ofConfig c).subject) ChaCha.dice args host
    ⟨files, (), []⟩
  IO.print ended.printed
  match ended.problem? with
  | some problem => IO.eprintln problem
  | none => pure ()
  Main.store files ended.bench.files
  pure (UInt32.ofNat ended.exitCode)

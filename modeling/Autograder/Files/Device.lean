/-
# Devices

At some places there is no file, but a device: one that is nothing, one that is always full, or a
stream that a program has open already. What is written to a device changes no file. The place of
the device that is nothing stands in the tree as an empty file, since that is what is read there. A
program may take it for a file and write to it; it is emptied after each program, and between the
steps of the grader (`drained`).
-/

import Autograder.Files.Tree

namespace Autograder

/-- What stands at a place that is not one of a file. -/
inductive Device where
  | nothing
  /-- Zero bytes without end. -/
  | zeros
  /-- Zero bytes without end, and no room. -/
  | full
  | stream (number : Nat)
  deriving DecidableEq, Repr

namespace Device

/-- The device at a place. -/
def at? : Place → Option Device
  | ["null", "dev"] => some .nothing
  | ["zero", "dev"] => some .zeros
  | ["full", "dev"] => some .full
  | ["stdin", "dev"] => some (.stream 0)
  | ["stdout", "dev"] => some (.stream 1)
  | ["stderr", "dev"] => some (.stream 2)
  | [n, "fd", "dev"] | [n, "fd", "self", "proc"] => n.toNat?.map .stream
  | _ => none

/-- The output of the program. -/
def output : Device := .stream 1

/-- A program starts with three streams: one to read, its output, and its error output. -/
def isThere : Device → Bool
  | .stream n => n ≤ 2
  | _ => true

/-- What is printed when a text is written to the device. -/
def take (d : Device) (text : String) : Except FileError String :=
  if d = .full then .error .noSpace else .ok (if d = output then text else "")

end Device

namespace Files

/-- The place of the device that is nothing. -/
def nowhere : Place := ["null", "dev"]

/-- The tree in which nothing is kept at the device that is nothing. -/
def drained (fs : Files) : Files :=
  match fs.node? nowhere with
  | some (.file _ _) => fs.putBytes nowhere .empty
  | _ => fs

/-- The place of the file or of the device that is opened at a path to write to it. -/
def outlet (fs : Files) (path : String) : Except FileError Place :=
  match fs.writable path with
  | .error e => .error e
  | .ok p => if (Device.at? p).all Device.isThere then .ok p else .error .notFound

/-- What comes of writing a text to what is at a path: the tree, and what is printed. -/
def deliver (fs : Files) (path text : String) : Except FileError (Files × String) :=
  match fs.outlet path with
  | .error e => .error e
  | .ok p =>
    match Device.at? p with
    | some device => (device.take text).map fun printed => (fs, printed)
    | none => .ok (fs.putBytes p text.toUTF8, "")

/-- The tree with bytes at the end of the file at a place, which is made if nothing stands there. -/
def appendBytes (fs : Files) (p : Place) (bytes : ByteArray) : Files :=
  match fs.node? p with
  | some .directory => fs
  | some (.file old _) => fs.putBytes p (old ++ bytes)
  | none => fs.putBytes p bytes

/-- What comes of writing a text at the end of what is at a place: the tree, and what is printed.
What a device has no room for is lost. -/
def append (fs : Files) (p : Place) (text : String) : Files × String :=
  match Device.at? p with
  | some device => (fs, (device.take text).toOption.getD "")
  | none => (fs.appendBytes p text.toUTF8, "")

end Files
end Autograder

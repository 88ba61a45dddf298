/-
# Files

The files and directories that the grader and the program under test share. A place in the tree is
given by its names, the innermost first, so that the directory above it is the rest of the list.
Paths are followed name by name: each name but the last has to be that of a directory.
-/

import Autograder.Files.Path

namespace Autograder

/-- Why something could not be done with a file. -/
inductive FileError where
  | notFound
  | notADirectory
  | isADirectory
  | alreadyExists
  | nameTooLong
  | permissionDenied
  | notEmpty
  | notAProgram
  | badDescriptor
  | noSpace
  | tooManyLinks
  | zeroByteInName
  | notText
  deriving DecidableEq, Repr

namespace FileError

/-- The error in words. -/
def reason : FileError → String
  | .notFound => "No such file or directory"
  | .permissionDenied => "Permission denied"
  | .alreadyExists => "File exists"
  | .notADirectory => "Not a directory"
  | .isADirectory => "Is a directory"
  | .notEmpty => "Directory not empty"
  | .nameTooLong => "File name too long"
  | .notAProgram => "Exec format error"
  | .badDescriptor => "Bad file descriptor"
  | .noSpace => "No space left on device"
  | .tooManyLinks => "Too many levels of symbolic links"
  | .zeroByteInName => "file name contained an unexpected NUL byte"
  | .notText => "stream did not contain valid UTF-8"

/-- The number that the system gives the error, if it is one of the system's. -/
def number? : FileError → Option Nat
  | .notFound => some 2
  | .notAProgram => some 8
  | .badDescriptor => some 9
  | .permissionDenied => some 13
  | .alreadyExists => some 17
  | .notADirectory => some 20
  | .isADirectory => some 21
  | .noSpace => some 28
  | .nameTooLong => some 36
  | .notEmpty => some 39
  | .tooManyLinks => some 40
  | .zeroByteInName | .notText => none

/-- The error in words, with its number. -/
def message (e : FileError) : String :=
  match e.number? with
  | some n => e.reason ++ " (os error " ++ toString n ++ ")"
  | none => e.reason

end FileError

/-- A place in the tree: the names from the innermost to the outermost. The root has none. -/
abbrev Place := List String

/-- What stands at a place. -/
inductive FileNode where
  | directory
  | file (bytes : ByteArray) (executable : Bool)

/-- A tree of files, and the current directory. -/
structure Files where
  here : Place
  nodes : List (Place × FileNode)

namespace Files

/-- A directory and those above it. -/
def directories : Place → List (Place × FileNode)
  | [] => []
  | name :: above => (name :: above, .directory) :: directories above

/-- What every system has: some directories, a shell, and the device that is nothing, which is read
like an empty file. -/
def systemNodes : List (Place × FileNode) :=
  let top := ["bin", "dev", "etc", "home", "lib", "opt", "proc", "root", "sbin", "srv", "sys", "tmp",
    "usr", "var"]
  top.map (fun name => ([name], .directory)) ++
    [(["bin", "usr"], .directory), (["lib", "usr"], .directory), (["local", "usr"], .directory),
      (["tmp", "var"], .directory), (["fd", "dev"], .directory), (["self", "proc"], .directory),
      (["fd", "self", "proc"], .directory), (["sh", "bin"], .file .empty true),
      (["null", "dev"], .file .empty false)]

/-- The files of a system with a current directory in which nothing stands. -/
def startingAt (here : Place) : Files :=
  let nodes := directories here
  ⟨here, nodes ++ systemNodes.filter fun n => nodes.all fun m => m.1 != n.1⟩

/-- What stands at a place; the root is a directory. -/
def node? (fs : Files) (p : Place) : Option FileNode :=
  if p.isEmpty then some .directory else (fs.nodes.find? fun n => n.1 == p).map Prod.snd

/-- The tree with another node at a place. -/
def setNode (fs : Files) (p : Place) (n : FileNode) : Files :=
  { fs with nodes := (p, n) :: fs.nodes.filter fun m => m.1 != p }

/-- The tree without the node at a place. -/
def removeNode (fs : Files) (p : Place) : Files :=
  { fs with nodes := fs.nodes.filter fun m => m.1 != p }

/-- There is a directory at a place. -/
def isDirectoryAt (fs : Files) (p : Place) : Bool :=
  match fs.node? p with
  | some .directory => true
  | _ => false

/-- The longest name that a file can have, in bytes. -/
def maxNameBytes : Nat := 255

/-- The longest path that is followed, in bytes. -/
def maxPathBytes : Nat := 4095

/-- The directory that names lead to from a directory. -/
def follow (fs : Files) (p : Place) : List String → Except FileError Place
  | [] => .ok p
  | name :: rest =>
    if name = "." then follow fs p rest
    else if name = ".." then follow fs p.tail rest
    else if maxNameBytes < name.utf8ByteSize then .error .nameTooLong
    else
      match fs.node? (name :: p) with
      | none => .error .notFound
      | some (.file _ _) => .error .notADirectory
      | some .directory => follow fs (name :: p) rest

/-- Where a path leads: to a directory, or to a name in a directory, at which there need not be
anything. With a slash after it, the name is that of a directory. -/
inductive Target where
  | directory (place : Place)
  | entry (place : Place) (slash : Bool)

/-- A name that stands for a directory wherever it occurs. -/
def isDots (name : String) : Bool := name == "." || name == ".."

/-- Where a path leads. -/
def target (fs : Files) (path : String) : Except FileError Target :=
  let start := if Path.isAbsolute path then [] else fs.here
  if path.toList.contains '\x00' then .error .zeroByteInName
  else if path.isEmpty then .error .notFound
  else if maxPathBytes < path.utf8ByteSize then .error .nameTooLong
  else
    match (Path.names path).reverse with
    | [] => .ok (.directory start)
    | last :: above =>
      match fs.follow start above.reverse with
      | .error e => .error e
      | .ok p =>
        if isDots last then (fs.follow p [last]).map .directory
        else if maxNameBytes < last.utf8ByteSize then .error .nameTooLong
        else .ok (.entry (last :: p) (Path.endsWithSlash path))

/-- The node that a path leads to. -/
def find (fs : Files) (path : String) : Except FileError (Place × FileNode) :=
  match fs.target path with
  | .error e => .error e
  | .ok (.directory p) => .ok (p, .directory)
  | .ok (.entry p slash) =>
    match fs.node? p with
    | none => .error .notFound
    | some (.file bytes executable) =>
      if slash then .error .notADirectory else .ok (p, .file bytes executable)
    | some .directory => .ok (p, .directory)

/-- There is something at a path. -/
def exists? (fs : Files) (path : String) : Bool :=
  match fs.find path with
  | .ok _ => true
  | .error _ => false

/-- There is a directory at a path. -/
def isDirectory (fs : Files) (path : String) : Bool :=
  match fs.find path with
  | .ok (_, .directory) => true
  | _ => false

/-- The bytes of a file. -/
def readBytes (fs : Files) (path : String) : Except FileError ByteArray :=
  match fs.find path with
  | .error e => .error e
  | .ok (_, .directory) => .error .isADirectory
  | .ok (_, .file bytes _) => .ok bytes

/-- The text of a file, which has to be UTF-8. -/
def readText (fs : Files) (path : String) : Except FileError String :=
  match fs.readBytes path with
  | .error e => .error e
  | .ok bytes =>
    match String.fromUTF8? bytes with
    | some text => .ok text
    | none => .error .notText

/-- The place of the file that is written at a path. -/
def writable (fs : Files) (path : String) : Except FileError Place :=
  match fs.target path with
  | .error e => .error e
  | .ok (.directory _) => .error .isADirectory
  | .ok (.entry p slash) =>
    if slash || fs.isDirectoryAt p then .error .isADirectory else .ok p

/-- The file at a place with other bytes. A new file is not executable. -/
def putBytes (fs : Files) (p : Place) (bytes : ByteArray) : Files :=
  match fs.node? p with
  | some (.file _ executable) => fs.setNode p (.file bytes executable)
  | _ => fs.setNode p (.file bytes false)

/-- The tree after bytes are written to a file, which is made if there is none. -/
def writeBytes (fs : Files) (path : String) (bytes : ByteArray) : Except FileError Files :=
  (fs.writable path).map fun p => fs.putBytes p bytes

/-- The tree after a text is written to a file. -/
def writeText (fs : Files) (path text : String) : Except FileError Files :=
  fs.writeBytes path text.toUTF8

/-- The tree with a new directory, made in a directory that is there. -/
def makeDirectory (fs : Files) (path : String) : Except FileError Files :=
  match fs.target path with
  | .error e => .error e
  | .ok (.directory _) => .error .alreadyExists
  | .ok (.entry p _) =>
    if (fs.node? p).isSome then .error .alreadyExists else .ok (fs.setNode p .directory)

/-- What trying to make a directory comes to when it fails: one that is there already will do. -/
def settle (fs : Files) (path : String) (e : FileError) : Except FileError Unit × Files :=
  if fs.isDirectory path then (.ok (), fs) else (.error e, fs)

/-- Makes a directory, and the one above it if it is missing, at most `depth` directories up. -/
def makeUpTo (fs : Files) : Nat → String → Except FileError Unit × Files
  | 0, path => fs.settle path .notFound
  | depth + 1, path =>
    if path.isEmpty then (.ok (), fs)
    else
      match fs.makeDirectory path with
      | .ok fs => (.ok (), fs)
      | .error .notFound =>
        match makeUpTo fs depth (Path.parent path) with
        | (.error e, fs) => (.error e, fs)
        | (.ok (), fs) =>
          match fs.makeDirectory path with
          | .ok fs => (.ok (), fs)
          | .error e => fs.settle path e
      | .error e => fs.settle path e

/-- Makes a directory and those above it. What was made stays when an error stops it. -/
def makeDirectories (fs : Files) (path : String) : Except FileError Unit × Files :=
  fs.makeUpTo ((Path.components path).length + 1) path

/-- The current directory as a path. -/
def herePath (fs : Files) : String := Path.ofNames fs.here.reverse

/-- The absolute form of a path. -/
def absolute (fs : Files) (path : String) : String := Path.absolute fs.herePath path

/-- The names in a directory, sorted. -/
def list (fs : Files) (p : Place) : List String :=
  (fs.nodes.filterMap fun n =>
    match n.1 with
    | name :: above => if above == p then some name else none
    | [] => none).mergeSort fun x y => decide (x ≤ y)

end Files
end Autograder

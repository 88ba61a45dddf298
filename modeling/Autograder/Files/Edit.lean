/-
# Changes to the tree of files

Removing, copying and moving what stands at a path, with all that is below it.
-/

import Autograder.Files.Device

namespace Autograder
namespace Files

/-- A place is another place or below it. -/
def isWithin (p q : Place) : Bool := p.isSuffixOf q

/-- The tree without what stands at a place and below it. -/
def removeTree (fs : Files) (p : Place) : Files :=
  { fs with nodes := fs.nodes.filter fun n => !isWithin p n.1 }

/-- The tree with what stands at and below `source` at and below `target` instead. -/
def moveTree (fs : Files) (source target : Place) : Files :=
  let (moved, kept) := fs.nodes.partition fun n => isWithin source n.1
  { fs with
    nodes := moved.map (fun n => (n.1.take (n.1.length - source.length) ++ target, n.2)) ++
      kept.filter fun n => n.1 != target }

/-- The tree with copies at and below `target` of what stands at and below `source`. What is at a
place already keeps its switch for executable files. -/
def copyTree (fs : Files) (source target : Place) : Files :=
  (fs.nodes.filter fun n => isWithin source n.1).foldl (fun fs n =>
    let p := n.1.take (n.1.length - source.length) ++ target
    match n.2, fs.node? p with
    | .file bytes _, some (.file _ executable) => fs.setNode p (.file bytes executable)
    | .directory, some _ => fs
    | node, _ => fs.setNode p node) fs

/-- The tree without a file, or without a directory that is empty if `directories` are asked for. -/
def remove (fs : Files) (directories : Bool) (path : String) : Except FileError Files := do
  match ← fs.find path with
  | (p, .file _ _) => if directories then .error .notADirectory else pure (fs.removeNode p)
  | (p, .directory) =>
    if !directories then .error .isADirectory
    else if (fs.list p).isEmpty then pure (fs.removeNode p)
    else .error .notEmpty

/-- The path of what is called like `source`, in `target` if that is a directory. -/
def destination (fs : Files) (source target : String) : String :=
  if fs.isDirectory target then Path.join target ((Path.names source).getLast?.getD "") else target

/-- The tree with a copy of a file. -/
def copy (fs : Files) (source target : String) : Except FileError Files := do
  match ← fs.find source with
  | (_, .directory) => .error .isADirectory
  | (_, .file bytes executable) =>
    let p ← fs.writable (fs.destination source target)
    if p = nowhere then pure fs
    else
      match fs.node? p with
      | some _ => pure (fs.putBytes p bytes)
      | none => pure (fs.setNode p (.file bytes executable))

/-- The tree with a file or directory at another path. -/
def move (fs : Files) (source target : String) : Except FileError Files := do
  let (p, _) ← fs.find source
  match ← fs.target (fs.destination source target) with
  | .directory _ => .error .alreadyExists
  | .entry q _ => if p = q then pure fs else pure (fs.moveTree p q)

end Files
end Autograder

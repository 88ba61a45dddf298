/-
# Making, moving and listing files

The utilities that change the tree of files, and those that show what is in it.
-/

import Autograder.Shell.Utility.Basic

namespace Autograder
namespace Shell
namespace Utility

/-- What a change of files comes to: other files, or what is wrong; and what is said of it if that is
asked for. -/
abbrev Change := Except (List Char) (Files × List (List Char))

/-- Does something with each of some arguments; what fails is reported. -/
def forEachPath (name : String) (verbose : Bool) (change : Files → List Char → Change)
    (paths : List (List Char)) : Run Nat := do
  let mut status := 0
  for p in paths do
    match change (← get).files p with
    | .ok (files, said) => do
      modify fun m => { m with files := files }
      if verbose then
        for line in said do writeLine line
    | .error message => do
      report name message
      status := 1
  pure status

/-- A message about a path: what could not be done, and why. -/
def pathFault (start : String) (path : List Char) (e : FileError) : List Char :=
  bytesOf start ++ inQuotes path ++ bytesOf (": " ++ e.reason)

/-- A change of files that is said to have failed in the usual way. -/
def asChange (start : String) (path : List Char) (r : Except FileError Files) : Change :=
  match r with
  | .ok files => .ok (files, [])
  | .error e => .error (pathFault start path e)

/-- The names of a path lead to a directory by dots. -/
def endsInDots (path : List Char) : Bool :=
  match (Path.names (toText path)).getLast? with
  | some name => Files.isDots name
  | none => false

/-- The path of a name in a directory. -/
def below (path : List Char) (name : String) : List Char :=
  if path.getLast? == some '/' then path ++ bytesOf name else path ++ '/' :: bytesOf name

/-- What is said of the removal of all that is at a place, the innermost first. -/
def removalsIn (fs : Files) : Nat → Place → List Char → List (List Char)
  | 0, _, _ => []
  | fuel + 1, p, path =>
    match fs.node? p with
    | some (.file _ _) => [bytesOf "removed " ++ inQuotes path]
    | some .directory =>
      ((fs.list p).flatMap fun name => removalsIn fs fuel (name :: p) (below path name)) ++
        [bytesOf "removed directory " ++ inQuotes path]
    | none => []

/-- The files without what is at a path. -/
def removal (o : Options) (fs : Files) (path : List Char) : Change :=
  let recursive := o.has 'r' || o.has 'R'
  let cannot (e : FileError) : Change := .error (pathFault "cannot remove " path e)
  if recursive && endsInDots path then
    .error (bytesOf "refusing to remove '.' or '..' directory: skipping " ++ inQuotes path)
  else
    match fs.find (toText path) with
    | .error e =>
      if o.has 'f' && (e == .notFound || e == .notADirectory) then .ok (fs, []) else cannot e
    | .ok ([], _) =>
      if recursive then
        .error (bytesOf ("it is dangerous to operate recursively on '/'\n" ++
          "rm: use --no-preserve-root to override this failsafe"))
      else cannot .isADirectory
    | .ok (p, .file _ _) => .ok (fs.removeNode p, removalsIn fs 1 p path)
    | .ok (p, .directory) =>
      if recursive then .ok (fs.removeTree p, removalsIn fs (fs.nodes.length + 1) p path)
      else if o.has 'd' then
        if (fs.list p).isEmpty then .ok (fs.removeNode p, removalsIn fs 1 p path)
        else cannot .notEmpty
      else cannot .isADirectory

/-- Removes files. -/
def rm (args : List (List Char)) : Run Nat :=
  let words := [("recursive", 'r'), ("force", 'f'), ("verbose", 'v'), ("dir", 'd')]
  withOptions "rm" ⟨"rRfivdI", "", words, 1, false⟩ args fun o => do
    if o.operands.isEmpty && !o.has 'f' then misused "rm" (bytesOf "missing operand") 1
    else forEachPath "rm" (o.has 'v') (removal o) o.operands

/-- The files without an empty directory, and without those above it that are empty then. -/
def emptyRemoval (parents : Bool) : Nat → Files → List Char → Change
  | 0, fs, _ => .ok (fs, [])
  | fuel + 1, fs, path =>
    if (Path.names (toText path)).getLast? == some "." then
      .error (bytesOf "failed to remove " ++ inQuotes path ++ bytesOf ": Invalid argument")
    else
      match fs.remove true (toText path) with
      | .error e => .error (pathFault "failed to remove " path e)
      | .ok fs =>
        let said := bytesOf "rmdir: removing directory, " ++ inQuotes path
        let above := bytesOf (Path.parent (toText path))
        if parents && !above.isEmpty && above != ['/'] then
          (emptyRemoval parents fuel fs above).map fun r => (r.1, said :: r.2)
        else .ok (fs, [said])

/-- Removes empty directories. -/
def rmdir (args : List (List Char)) : Run Nat :=
  let words := [("parents", 'p'), ("verbose", 'v'), ("ignore-fail-on-non-empty", 'i')]
  withOptions "rmdir" ⟨"pvi", "", words, 1, false⟩ args fun o => do
    let change (fs : Files) (path : List Char) : Change :=
      match emptyRemoval (o.has 'p') (path.length + 1) fs path, fs.find (toText path) with
      | .error e, .ok (p, .directory) =>
        if o.has 'i' && !(fs.list p).isEmpty then .ok (fs, []) else .error e
      | r, _ => r
    if o.operands.isEmpty then misused "rmdir" (bytesOf "missing operand") 1
    else forEachPath "rmdir" (o.has 'v') change o.operands

/-- The paths of the directories that a path goes through. -/
def stages (path : List Char) : List (List Char) :=
  let names := Path.names (toText path)
  (List.range names.length).map fun n =>
    (if path.head? == some '/' then ['/'] else []) ++
      bytesOf ("/".intercalate (names.take (n + 1)))

/-- The files with a new directory, and with those above it if they are asked for. -/
def making (parents : Bool) (fs : Files) (path : List Char) : Change :=
  let said (p : List Char) : List Char := bytesOf "mkdir: created directory " ++ inQuotes p
  if parents && !path.isEmpty then
    (stages path).foldlM (fun (fs, done) p =>
      if fs.isDirectory (toText p) then .ok (fs, done)
      else
        match fs.makeDirectory (toText p) with
        | .ok fs => .ok (fs, done ++ [said p])
        | .error e => .error (pathFault "cannot create directory " p e)) (fs, [])
  else
    match fs.makeDirectory (toText path) with
    | .ok fs => .ok (fs, [said path])
    | .error e => .error (pathFault "cannot create directory " path e)

/-- The permissions that a mode gives, where there are others before: octal digits, or letters. -/
def mode? (before : Nat) (mode : List Char) : Option Nat :=
  if !mode.isEmpty && mode.all Char.isDigit then
    let n := Nat.ofDigitChars 8 mode 0
    if mode.all (fun c => c < '8') && n < 4096 then some n else none
  else Builtin.changeModes? before (Builtin.splitAt ',' mode)

/-- Makes directories. -/
def mkdir (args : List (List Char)) : Run Nat :=
  let words := [("parents", 'p'), ("mode", 'm'), ("verbose", 'v')]
  withOptions "mkdir" ⟨"pv", "m", words, 1, false⟩ args fun o => do
    match (o.value? 'm').filter fun m => (mode? 0o777 m).isNone with
    | some m => do
      report "mkdir" (bytesOf "invalid mode " ++ inQuotes m)
      pure 1
    | none =>
      if o.operands.isEmpty then misused "mkdir" (bytesOf "missing operand") 1
      else forEachPath "mkdir" (o.has 'v') (making (o.has 'p')) o.operands

/-- Makes files that are not there yet. -/
def touch (args : List (List Char)) : Run Nat :=
  let words := [("no-create", 'c'), ("date", 'd'), ("reference", 'r')]
  withOptions "touch" ⟨"acmfh", "dtr", words, 1, false⟩ args fun o => do
    let change (fs : Files) (path : List Char) : Change :=
      match fs.find (toText path) with
      | .ok _ => .ok (fs, [])
      | .error .notFound =>
        if o.has 'c' then .ok (fs, [])
        else if path.getLast? == some '/' then
          .error (pathFault "setting times of " path .notFound)
        else asChange "cannot touch " path (fs.writeText (toText path) "")
      | .error e => .error (pathFault "cannot touch " path e)
    if o.operands.isEmpty then misused "touch" (bytesOf "missing file operand") 1
    else forEachPath "touch" false change o.operands

/-- The permissions of what stands at a place. -/
def permissionsOf : FileNode → Nat
  | .directory => 0o755
  | .file _ executable => if executable then 0o755 else 0o644

/-- Permissions as letters. -/
def permissionLetters (mode : Nat) : List Char :=
  (List.range 9).map fun n =>
    if mode / Nat.pow 2 (8 - n) % 2 = 1 then "rwx".toList.getD (n % 3) '-' else '-'

/-- The places at and below a place. -/
def placesIn (fs : Files) (p : Place) : List Place :=
  p :: (fs.nodes.filter fun n => Files.isWithin p n.1 && n.1 != p).map Prod.fst

/-- The files with other permissions for what is at a path. -/
def permitting (recursive : Bool) (mode : List Char) (fs : Files) (path : List Char) : Change :=
  match fs.find (toText path) with
  | .error e => .error (pathFault "cannot access " path e)
  | .ok (p, _) =>
    let change (fs : Files) (q : Place) : Files :=
      match fs.node? q with
      | some (.file bytes executable) =>
        let n := (mode? (permissionsOf (.file bytes executable)) mode).getD 0
        fs.setNode q (.file bytes ((n &&& 0o111) != 0))
      | _ => fs
    .ok ((if recursive then placesIn fs p else [p]).foldl change fs, [])

/-- Sets permissions. A mode may start with a dash. -/
def chmod (args : List (List Char)) : Run Nat :=
  let isMode (a : List Char) : Bool :=
    match a with
    | '-' :: c :: cs => (c :: cs).all "rwxXst".toList.contains
    | _ => false
  let words := [("recursive", 'R'), ("verbose", 'v'), ("changes", 'c')]
  let modes := args.takeWhile fun a => a != ['-', '-']
  let others := args.filter fun a => !(modes.contains a && isMode a)
  withOptions "chmod" ⟨"Rvcf", "", words, 1, false⟩ others fun o => do
    match (args.filter isMode).take 1 ++ o.operands with
    | [] => misused "chmod" (bytesOf "missing operand") 1
    | [m] => misused "chmod" (bytesOf "missing operand after " ++ inQuotes m) 1
    | m :: paths =>
      if (mode? 0o644 m).isNone then misused "chmod" (bytesOf "invalid mode: " ++ inQuotes m) 1
      else forEachPath "chmod" false (permitting (o.has 'R') m) paths

/-- What comes behind the last slash of a path. -/
def lastName (path : List Char) : List Char :=
  bytesOf ((Path.names (toText path)).getLast?.getD "/")

/-- The path that a source is brought to: in the target, if that is a directory. -/
def destination (o : Options) (fs : Files) (source target : List Char) : List Char :=
  if fs.isDirectory (toText target) && !o.has 'T' then below target (toText (lastName source))
  else target

/-- What is said of a copy of all that is at a place. -/
def copiesIn (fs : Files) : Nat → Place → List Char → List Char → List (List Char)
  | 0, _, _, _ => []
  | fuel + 1, p, source, target =>
    (inQuotes source ++ bytesOf " -> " ++ inQuotes target) ::
      (fs.list p).flatMap fun name =>
        copiesIn fs fuel (name :: p) (below source name) (below target name)

/-- The files with a copy. -/
def copying (o : Options) (target : List Char) (fs : Files) (source : List Char) : Change :=
  let target := destination o fs source target
  let recursive := o.has 'r' || o.has 'R' || o.has 'a'
  let there := fs.find (toText target)
  let said (p : Place) : List (List Char) := copiesIn fs (fs.nodes.length + 1) p source target
  match fs.find (toText source) with
  | .error e => .error (pathFault "cannot stat " source e)
  | .ok (p, .directory) =>
    if !recursive then .error (bytesOf "-r not specified; omitting directory " ++ inQuotes source)
    else
      match there, fs.target (toText target) with
      | .ok (_, .file _ _), _ =>
        .error (bytesOf "cannot overwrite non-directory " ++ inQuotes target ++
          bytesOf " with directory " ++ inQuotes source)
      | .ok (q, _), _ | _, .ok (.entry q _) =>
        if Files.isWithin p q then
          .error (bytesOf "cannot copy a directory, " ++ inQuotes source ++
            bytesOf ", into itself, " ++ inQuotes target)
        else .ok (fs.copyTree p q, said p)
      | _, .ok (.directory q) => .ok (fs.copyTree p q, said p)
      | _, .error e => .error (pathFault "cannot create directory " target e)
  | .ok (p, .file bytes executable) =>
    match there with
    | .ok (_, .directory) =>
      .error (bytesOf "cannot overwrite directory " ++ inQuotes target ++
        bytesOf " with non-directory")
    | .ok (q, .file _ _) =>
      if p = q then
        .error (inQuotes source ++ bytesOf " and " ++ inQuotes target ++
          bytesOf " are the same file")
      else if o.has 'n' then .ok (fs, [])
      else .ok (fs.putBytes q bytes, said p)
    | .error _ =>
      match fs.target (toText target) with
      | .ok (.entry q false) => .ok (fs.setNode q (.file bytes executable), said p)
      | .ok _ => .error (pathFault "cannot create regular file " target .notADirectory)
      | .error e => .error (pathFault "cannot create regular file " target e)

/-- The files with something at another path. -/
def moving (o : Options) (target : List Char) (fs : Files) (source : List Char) : Change :=
  let target := destination o fs source target
  let said := [bytesOf "renamed " ++ inQuotes source ++ bytesOf " -> " ++ inQuotes target]
  let cannot (e : FileError) : Change :=
    .error (bytesOf "cannot move " ++ inQuotes source ++ bytesOf " to " ++ inQuotes target ++
      bytesOf (": " ++ e.reason))
  match fs.find (toText source), fs.find (toText target), fs.target (toText target) with
  | .error e, _, _ => .error (pathFault "cannot stat " source e)
  | .ok (p, node), .ok (q, other), _ =>
    if p = q then
      .error (inQuotes source ++ bytesOf " and " ++ inQuotes target ++ bytesOf " are the same file")
    else if Files.isWithin p q then
      .error (bytesOf "cannot move " ++ inQuotes source ++ bytesOf " to a subdirectory of itself, "
        ++ inQuotes target)
    else if o.has 'n' then .ok (fs, [])
    else
      match node, other with
      | .directory, .file _ _ =>
        .error (bytesOf "cannot overwrite non-directory " ++ inQuotes target ++
          bytesOf " with directory " ++ inQuotes source)
      | .file _ _, .directory =>
        .error (bytesOf "cannot overwrite directory " ++ inQuotes target ++
          bytesOf " with non-directory")
      | .directory, .directory =>
        if (fs.list q).isEmpty then .ok (fs.moveTree p q, said) else cannot .notEmpty
      | .file _ _, .file _ _ => .ok (fs.moveTree p q, said)
  | .ok _, .error _, .error e => cannot e
  | .ok (p, .directory), _, .ok (.entry q _) =>
    if Files.isWithin p q then
      .error (bytesOf "cannot move " ++ inQuotes source ++ bytesOf " to a subdirectory of itself, "
        ++ inQuotes target)
    else .ok (fs.moveTree p q, said)
  | .ok (p, _), _, .ok (.entry q slash) =>
    if slash then cannot .notADirectory else .ok (fs.moveTree p q, said)
  | .ok _, _, .ok (.directory _) => cannot .alreadyExists

/-- Copies or moves files to a path, or into a directory. -/
def transfer (name plain : String) (change : Options → List Char → Files → List Char → Change)
    (args : List (List Char)) : Run Nat :=
  let words := [("recursive", 'r'), ("force", 'f'), ("verbose", 'v'), ("no-clobber", 'n'),
    ("archive", 'a'), ("target-directory", 't'), ("no-target-directory", 'T'), ("symbolic", 's')]
  withOptions name ⟨plain, "tS", words, 1, false⟩ args fun o => do
    let all := o.operands ++ (o.value? 't').toList
    match all.reverse with
    | [] => misused name (bytesOf "missing file operand") 1
    | [a] => misused name (bytesOf "missing destination file operand after " ++ inQuotes a) 1
    | target :: sources =>
      let found := (← get).files.find (toText target)
      match found with
      | .error e =>
        if 1 < sources.length then do
          report name (bytesOf "target " ++ inQuotes target ++ bytesOf (": " ++ e.reason))
          return 1
      | .ok (_, .file _ _) =>
        if 1 < sources.length then do
          report name (bytesOf "target " ++ inQuotes target ++
            bytesOf (": " ++ FileError.notADirectory.reason))
          return 1
      | .ok (_, .directory) => pure ()
      forEachPath name (o.has 'v') (change o target) sources.reverse

/-- The files with another name for a file: a copy, as long as neither is changed. -/
def linking (o : Options) (target : List Char) (fs : Files) (source : List Char) : Change :=
  let target := destination o fs source target
  match fs.find (toText source), fs.find (toText target) with
  | .error e, _ => .error (pathFault "failed to access " source e)
  | .ok (_, .directory), _ =>
    .error (inQuotes source ++ bytesOf ": hard link not allowed for directory")
  | .ok (_, .file bytes executable), there =>
    let kind := if o.has 's' then "failed to create symbolic link " else "failed to create hard link "
    if there.isOk && !o.has 'f' then .error (pathFault kind target .alreadyExists)
    else
      match fs.writable (toText target) with
      | .ok q => .ok (fs.setNode q (.file bytes executable), [])
      | .error e => .error (pathFault kind target e)

/-- Copies files. -/
def cp : List (List Char) → Run Nat := transfer "cp" "rRafpivnTdPLHul" copying

/-- Moves files. -/
def mv : List (List Char) → Run Nat := transfer "mv" "fivnTu" moving

/-- Gives files other names. -/
def ln (args : List (List Char)) : Run Nat :=
  let args := if (args.filter fun a => a.head? != some '-').length = 1 then args ++ [['.']] else args
  if args.isEmpty then misused "ln" (bytesOf "missing file operand") 1
  else transfer "ln" "sfvnTirbL" linking args

/-- How the names in directories are shown. -/
structure ListSpec where
  all : Bool
  almostAll : Bool
  backwards : Bool
  bySize : Bool
  long : Bool
  slashes : Bool
  marks : Bool

/-- The names in a directory that are shown, in order. -/
def ListSpec.names (o : ListSpec) (fs : Files) (p : Place) : List String :=
  let names := (fs.list p).filter fun name => o.all || o.almostAll || name.toList.head? != some '.'
  let size (name : String) : Nat :=
    match fs.node? (name :: p) with
    | some (.file bytes _) => bytes.size
    | some .directory => 4096
    | none => 0
  let names := (if o.all then [".", ".."] else []) ++ names
  let names := if o.bySize then names.mergeSort fun a b => decide (size b ≤ size a) else names
  if o.backwards then names.reverse else names

/-- What stands at a name in a directory. -/
def nodeAt (fs : Files) (p : Place) (name : String) : FileNode :=
  if Files.isDots name then .directory else (fs.node? (name :: p)).getD .directory

/-- A name with a mark that tells what it is the name of. -/
def ListSpec.marked (o : ListSpec) (name : List Char) (node : FileNode) : List Char :=
  match node with
  | .directory => if o.slashes || o.marks then name ++ ['/'] else name
  | .file _ executable => if executable && o.marks then name ++ ['*'] else name

/-- The size of what stands at a place. -/
def sizeOf : FileNode → Nat
  | .directory => 4096
  | .file bytes _ => bytes.size

/-- The lines for some names with what they are the names of. -/
def ListSpec.lines (o : ListSpec) (entries : List (List Char × FileNode)) : List (List Char) :=
  let width := entries.foldl (fun n e => max n (decimal (sizeOf e.2)).length) 0
  entries.map fun (name, node) =>
    let kind := match node with
      | .directory => 'd'
      | .file _ _ => '-'
    let links := match node with
      | .directory => '2'
      | .file _ _ => '1'
    if o.long then
      kind :: permissionLetters (permissionsOf node) ++ [' ', links] ++ bytesOf " root root " ++
        rightAligned width (decimal (sizeOf node)) ++ bytesOf " Jan  1 00:00 " ++
        o.marked name node
    else o.marked name node

/-- The lines for a directory. -/
def ListSpec.directory (o : ListSpec) (fs : Files) (p : Place) : List (List Char) :=
  let entries := (o.names fs p).map fun name => (bytesOf name, nodeAt fs p name)
  let blocks := entries.foldl (fun n e => n + (sizeOf e.2 + 4095) / 4096 * 4) 0
  (if o.long then [bytesOf "total " ++ decimal blocks] else []) ++ o.lines entries

/-- A directory and those below it, each with its path. -/
def ListSpec.directoriesIn (o : ListSpec) (fs : Files) : Nat → List Char → Place →
    List (List Char × Place)
  | 0, path, p => [(path, p)]
  | fuel + 1, path, p =>
    (path, p) :: (o.names fs p).flatMap fun name =>
      if !Files.isDots name && fs.isDirectoryAt (name :: p) then
        directoriesIn o fs fuel (below path name) (name :: p)
      else []

/-- Shows the names of files, and the names in directories. -/
def ls (args : List (List Char)) : Run Nat :=
  let words := [("all", 'a'), ("almost-all", 'A'), ("directory", 'd'), ("reverse", 'r'),
    ("recursive", 'R'), ("classify", 'F'), ("color", 'e'), ("human-readable", 'h')]
  withOptions "ls" ⟨"aA1dlrRFpmShtUniogsBNCxQfuckLHGve", "wIT", words, 2, false⟩
    (args.filter fun a => !(bytesOf "--color").isPrefixOf a) fun o => do
      let spec : ListSpec :=
        ⟨o.has 'a' || o.has 'f', o.has 'A', o.has 'r', o.has 'S',
          o.has 'l' || o.has 'n' || o.has 'g' || o.has 'o', o.has 'p', o.has 'F'⟩
      let fs := (← get).files
      let paths := (if o.operands.isEmpty then [['.']] else o.operands).mergeSort
        fun a b => !decide (b < a)
      let paths := if o.has 'r' then paths.reverse else paths
      let found := paths.map fun p => (p, fs.find (toText p))
      let missing := found.filterMap fun
        | (p, .error e) => some (p, e)
        | _ => none
      for (p, e) in missing do report "ls" (pathFault "cannot access " p e)
      let files := found.filterMap fun
        | (p, .ok (_, .file bytes x)) => some (p, FileNode.file bytes x)
        | (p, .ok (_, .directory)) => if o.has 'd' then some (p, .directory) else none
        | _ => none
      let directories := found.flatMap fun
        | (p, .ok (place, .directory)) =>
          if o.has 'd' then []
          else if o.has 'R' then spec.directoriesIn fs (fs.nodes.length + 1) p place
          else [(p, place)]
        | _ => []
      let shown (ls : List (List Char)) : List Char :=
        if o.has 'm' && !spec.long then
          if ls.isEmpty then [] else (bytesOf ", ").intercalate ls ++ ['\n']
        else ofLines ls
      let titles := 1 < paths.length || o.has 'R'
      let blocks := (if files.isEmpty then [] else [shown (spec.lines files)]) ++
        directories.map fun (p, place) =>
          (if titles then p ++ [':', '\n'] else []) ++ shown (spec.directory fs place)
      write (['\n'].intercalate blocks)
      pure (if missing.isEmpty then 0 else 2)

/-- A name without an ending, unless it is nothing else. -/
def withoutEnding (ending name : List Char) : List Char :=
  if ending.isSuffixOf name && ending != name then name.take (name.length - ending.length) else name

/-- Shows the last names of paths, without an ending if that is given. -/
def basename (args : List (List Char)) : Run Nat :=
  let words := [("multiple", 'a'), ("suffix", 's'), ("zero", 'z')]
  withOptions "basename" ⟨"az", "s", words, 1, true⟩ args fun o => do
    let several := o.has 'a' || o.has 's'
    match o.operands with
    | [] => misused "basename" (bytesOf "missing operand") 1
    | paths =>
      if several then do
        let ending := (o.value? 's').getD []
        for path in paths do writeLine (withoutEnding ending (lastName path))
        pure 0
      else
        match paths with
        | [path] => do
          writeLine (if path.isEmpty then [] else lastName path)
          pure 0
        | [path, ending] => do
          writeLine (withoutEnding ending (lastName path))
          pure 0
        | _ => misused "basename" (bytesOf "extra operand " ++ inQuotes (paths.getD 2 [])) 1

/-- Shows paths without their last names. -/
def dirname (args : List (List Char)) : Run Nat :=
  withOptions "dirname" (.letters "z" "") args fun o => do
    if o.operands.isEmpty then misused "dirname" (bytesOf "missing operand") 1
    else do
      for path in o.operands do
        let trimmed := (path.reverse.dropWhile (· == '/')).reverse
        let above := (trimmed.reverse.dropWhile (· != '/')).reverse
        let above := (above.reverse.dropWhile (· == '/')).reverse
        writeLine (if !above.isEmpty then above
          else if path.head? == some '/' then ['/'] else ['.'])
      pure 0

/-- The absolute path of what is at a path, or would be there. -/
def resolved (fs : Files) (path : List Char) : Except FileError (List Char) :=
  let text (p : Place) : List Char := bytesOf (Path.ofNames p.reverse)
  match fs.find (toText path), fs.target (toText path) with
  | .ok (p, _), _ => .ok (text p)
  | .error .notFound, .ok (.entry p _) => .ok (text p)
  | .error e, _ => .error e

/-- Shows the absolute forms of paths. -/
def realpath (args : List (List Char)) : Run Nat :=
  withOptions "realpath" (.letters "emsqzLP" "") args fun o => do
    let mut status := 0
    if o.operands.isEmpty then return (← misused "realpath" (bytesOf "missing operand") 1)
    for path in o.operands do
      match resolved (← get).files path with
      | .ok p => writeLine p
      | .error e => do
        report "realpath" (plainFault path e)
        status := 1
    pure status

/-- Shows where links lead. Without `-f` there is nothing to show, as no file is a link. -/
def readlink (args : List (List Char)) : Run Nat :=
  withOptions "readlink" (.letters "femnqsvz" "") args fun o => do
    let mut status := 0
    if o.operands.isEmpty then return (← misused "readlink" (bytesOf "missing operand") 1)
    for path in o.operands do
      match resolved (← get).files path with
      | .ok p => if o.has 'f' || o.has 'e' || o.has 'm' then writeLine p else status := 1
      | .error _ => status := 1
    pure status

/-- Cuts files, or fills them up, to a size. -/
def truncate (args : List (List Char)) : Run Nat :=
  let words := [("size", 's'), ("no-create", 'c'), ("reference", 'r')]
  withOptions "truncate" ⟨"co", "sr", words, 1, false⟩ args fun o => do
    match o.value? 's' with
    | none =>
      misused "truncate" (bytesOf "you must specify either '--size' or '--reference'") 1
    | some s =>
      let (sign, ds) := match s with
        | '+' :: r => (some '+', r)
        | '-' :: r => (some '-', r)
        | r => (none, r)
      match digits? ds with
      | none => do
        report "truncate" (bytesOf "Invalid number: " ++ inQuotes s)
        pure 1
      | some n =>
        let change (fs : Files) (path : List Char) : Change :=
          match fs.writable (toText path) with
          | .error e =>
            .error (bytesOf "cannot open " ++ inQuotes path ++
              bytesOf (" for writing: " ++ e.reason))
          | .ok p =>
            let old := match fs.node? p with
              | some (.file bytes _) => bytes
              | _ => .empty
            let size := match sign with
              | some '+' => old.size + n
              | some _ => old.size - n
              | none => n
            let gap : ByteArray := ⟨Array.replicate (size - old.size) 0⟩
            .ok (fs.putBytes p (old.extract 0 size ++ gap), [])
        if o.operands.isEmpty then misused "truncate" (bytesOf "missing file operand") 1
        else forEachPath "truncate" false change o.operands

/-- One part of what a format of `stat` shows. -/
def statField (path : List Char) (node : FileNode) (c : Char) : List Char :=
  match c, node with
  | 'n', _ => path
  | 's', n => decimal (sizeOf n)
  | 'a', n => Nat.toDigits 8 (permissionsOf n)
  | 'A', .directory => 'd' :: permissionLetters 0o755
  | 'A', n => '-' :: permissionLetters (permissionsOf n)
  | 'F', .directory => bytesOf "directory"
  | 'F', .file bytes _ => bytesOf (if bytes.size = 0 then "regular empty file" else "regular file")
  | 'U', _ | 'G', _ => bytesOf "root"
  | '%', _ => ['%']
  | _, _ => ['0']

/-- What a format of `stat` shows. -/
def statText (path : List Char) (node : FileNode) : List Char → List Char
  | '%' :: c :: r => statField path node c ++ statText path node r
  | c :: r => c :: statText path node r
  | [] => []

/-- Shows what is known of files in a format. -/
def stat (args : List (List Char)) : Run Nat :=
  withOptions "stat" ⟨"Lt", "c", [("format", 'c')], 1, false⟩ args fun o => do
    let mut status := 0
    if o.operands.isEmpty then return (← misused "stat" (bytesOf "missing operand") 1)
    for path in o.operands do
      match (← get).files.find (toText path) with
      | .ok (_, node) =>
        writeLine (statText path node ((o.value? 'c').getD (bytesOf "  File: %n\n  Size: %s")))
      | .error e => do
        report "stat" (pathFault "cannot statx " path e)
        status := 1
    pure status

end Utility
end Shell
end Autograder

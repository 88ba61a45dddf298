/-
# Searching files

The utility that shows the lines which a pattern matches, with their numbers, their files and the
lines around them.
-/

import Autograder.Shell.Regex.Reader
import Autograder.Shell.Utility.Basic

namespace Autograder
namespace Shell
namespace Utility

/-- What a search looks for in a line, and how it shows what it finds. -/
structure Search where
  regex : Regex
  options : Options
  /-- Files are shown with their names. -/
  titles : Bool
  before : Nat
  after : Nat

namespace Search

/-- The first match at or behind a place: a whole line, or whole words, if that is asked for. -/
def find? (s : Search) (text : Array Char) (place : Nat) : Option Regex.Match :=
  if s.options.has 'x' then
    ((Regex.ways text s.regex ⟨0, []⟩).find? fun w => w.place = text.size).map fun w =>
      ⟨0, w.place, w.groups⟩
  else if s.options.has 'w' then
    let isWord (n : Nat) : Bool := (text[n]?).any Regex.isWordChar
    (List.range (text.size + 1 - place)).findSome? fun n =>
      let start := place + n
      if 0 < start && isWord (start - 1) then none
      else
        ((Regex.ways text s.regex ⟨start, []⟩).find? fun w => !isWord w.place).map fun w =>
          ⟨start, w.place, w.groups⟩
  else s.regex.find? text place

/-- The line is one of those that are wanted. -/
def selects (s : Search) (line : List Char) : Bool :=
  (s.find? line.toArray 0).isSome != s.options.has 'v'

/-- The parts of a line that match and are not empty, with their places. -/
def partsFrom (s : Search) (text : Array Char) : Nat → Nat → List (Nat × List Char)
  | 0, _ => []
  | fuel + 1, place =>
    match s.find? text place with
    | none => []
    | some m =>
      if m.start = m.finish then
        if m.finish < text.size then partsFrom s text fuel (m.finish + 1) else []
      else (m.start, Regex.slice text m.start m.finish) :: partsFrom s text fuel m.finish

/-- A line of the output, with what stands in front of it; `mark` tells a line that matches from one
around it. -/
def shown (s : Search) (title : List Char) (number offset : Nat) (mark : Char)
    (text : List Char) : List Char :=
  (if s.titles then title ++ [mark] else []) ++
    (if s.options.has 'n' then decimal number ++ [mark] else []) ++
    (if s.options.has 'b' then decimal offset ++ [mark] else []) ++ text ++ ['\n']

/-- What is said of a line that is wanted. -/
def shownLine (s : Search) (title : List Char) (number offset : Nat) (line : List Char) :
    List Char :=
  if s.options.has 'o' then
    if s.options.has 'v' then []
    else
      let text := line.toArray
      (s.partsFrom text (text.size + 1) 0).flatMap fun (place, part) =>
        s.shown title number (offset + place) ':' part
  else s.shown title number offset ':' line

/-- How far a search has come: how many lines it has found, the last lines that were not shown, how
many more are to be shown, and whether something was shown. -/
structure Progress where
  count : Nat
  held : List (List Char)
  owed : Nat
  started : Bool
  gap : Bool

/-- The output for some lines from the given number on, and how many of them are wanted; it ends when
as many as asked for are found. -/
def lines (s : Search) (title : List Char) (most : Option Nat) :
    Nat → Nat → Progress → List (List Char) → List Char × Nat × Nat
  | number, _, p, [] => ([], p.count, number)
  | number, offset, p, line :: rest =>
    let isFull := most.any (· ≤ p.count)
    let next := offset + line.length + 1
    let around (line : List Char) : List Char := s.shown title number offset '-' line
    if isFull && p.owed = 0 then ([], p.count, number)
    else if !isFull && s.selects line then
      let separator :=
        if p.started && p.gap && (0 < s.before || 0 < s.after) then bytesOf "--\n" else []
      let p' : Progress := ⟨p.count + 1, [], s.after, true, false⟩
      let (out, r) := lines s title most (number + 1) next p' rest
      (separator ++ p.held.reverse.flatten ++ s.shownLine title number offset line ++ out, r)
    else if 0 < p.owed then
      let (out, r) := lines s title most (number + 1) next { p with owed := p.owed - 1 } rest
      (around line ++ out, r)
    else
      let held := (around line :: p.held).take s.before
      let lost := s.before ≤ p.held.length
      lines s title most (number + 1) next { p with held := held, gap := p.gap || lost } rest

end Search

/-- What a search calls a file. -/
def searchTitle (path : List Char) : List Char :=
  if path = ['-'] then bytesOf "(standard input)" else path

/-- How a utility that searches is used. -/
def searchUsage (name : String) : Run Nat := do
  writeError (bytesOf "Usage: grep [OPTION]... PATTERNS [FILE]...")
  writeError (bytesOf (hint name))
  pure 2

/-- The paths of the files in a directory and below it. -/
def filesIn (fs : Files) : Nat → List Char → Place → List (List Char)
  | 0, _, _ => []
  | fuel + 1, path, p =>
    match fs.node? p with
    | some (.file _ _) => [path]
    | some .directory =>
      (fs.list p).flatMap fun name =>
        let inner := if path.isEmpty then bytesOf name
          else if path.getLast? == some '/' then path ++ bytesOf name
          else path ++ '/' :: bytesOf name
        filesIn fs fuel inner (name :: p)
    | none => []

/-- The paths that a search looks at. -/
def searchedPaths (o : Options) (fs : Files) : List (List Char) :=
  if !(o.has 'r' || o.has 'R') then o.orInput
  else
    let paths := if o.operands.isEmpty then [[]] else o.operands
    paths.flatMap fun path =>
      match fs.find (if path.isEmpty then "." else toText path) with
      | .ok (p, .directory) => filesIn fs (fs.nodes.length + 1) path p
      | _ => [path]

/-- Takes the lines of a file that a search needs; what is read from the input is only taken as far
as that. -/
def linesFor (s : Search) (most : Option Nat) (path : List Char) :
    Run (Except FileError (List (List Char) × Bool)) := do
  let binary (text : List Char) : Bool := text.contains '\x00'
  if path != ['-'] then
    match ← bytesAt path with
    | .ok text => pure (.ok (plainLines text, binary text))
    | .error e => pure (.error e)
  else
    match ← Builtin.sourceOf 0 with
    | .error e => pure (.error e)
    | .ok (number, source) => do
      let ls := plainLines source.rest
      let (_, count, _) := s.lines [] most 1 0 ⟨0, [], 0, false, false⟩ ls
      let enough := most.any (· ≤ count) && !s.options.has 'c'
      Builtin.leave number source [] (!enough)
      pure (.ok (ls, binary source.rest))

/-- Searches some files: whether a line was found, and whether something was wrong. -/
def searchEach (s : Search) (most : Option Nat) : List (List Char) → Run (Bool × Bool)
  | [] => pure (false, false)
  | path :: paths => do
    let o := s.options
    match ← linesFor s most path with
    | .error e => do
      unless o.has 's' do report "grep" (searchTitle path ++ bytesOf (": " ++ e.reason))
      let (found, _) ← searchEach s most paths
      pure (found, true)
    | .ok (ls, binary) => do
      let title := searchTitle path
      let (out, count, _) := s.lines title most 1 0 ⟨0, [], 0, false, false⟩ ls
      if o.has 'q' then
        if 0 < count then return (true, false)
      else if o.has 'l' then
        if 0 < count then writeLine title
      else if o.has 'L' then
        if count = 0 then writeLine title
      else if o.has 'c' then
        writeLine ((if s.titles then title ++ [':'] else []) ++ decimal count)
      else if binary && 0 < count && !o.has 'a' then
        report "grep" (title ++ bytesOf ": binary file matches")
      else write out
      let (found, broken) ← searchEach s most paths
      pure (found || 0 < count, broken)

/-- The regular expression that finds any of some patterns. -/
def searchRegex (o : Options) (patterns : List (List Char)) : Except Regex.Fault Regex := do
  let d : Regex.Dialect := ⟨o.has 'E' || o.has 'P', o.has 'i' || o.has 'y', false, false⟩
  let all ← patterns.mapM fun p => if o.has 'F' then pure (Regex.ofText d p) else Regex.read d p
  match all with
  | [] => pure (.set [])
  | r :: rs => pure (rs.foldl .alt r)

/-- A search with a kind of patterns that its name may give. -/
def grepAs (letters : List Char) (args : List (List Char)) : Run Nat := do
  let words := [("extended-regexp", 'E'), ("fixed-strings", 'F'), ("basic-regexp", 'G'),
    ("perl-regexp", 'P'), ("regexp", 'e'), ("file", 'f'), ("ignore-case", 'i'),
    ("invert-match", 'v'), ("word-regexp", 'w'), ("line-regexp", 'x'), ("count", 'c'),
    ("files-with-matches", 'l'), ("files-without-match", 'L'), ("max-count", 'm'),
    ("only-matching", 'o'), ("quiet", 'q'), ("silent", 'q'), ("no-messages", 's'),
    ("line-number", 'n'), ("with-filename", 'H'), ("no-filename", 'h'), ("recursive", 'r'),
    ("after-context", 'A'), ("before-context", 'B'), ("context", 'C'), ("text", 'a'),
    ("byte-offset", 'b')]
  let spec : OptionSpec := ⟨"EFGPivwxclLoqsnHhrRabyzZTU", "efmABC", words, 2, false⟩
  let args := args.filter fun a => !(bytesOf "--colo").isPrefixOf a
  let args := args.map fun a =>
    match a with
    | '-' :: d :: r => if d.isDigit && r.all Char.isDigit then '-' :: 'C' :: d :: r else a
    | a => a
  match spec.readUpTo args.length args with
  | .error message => do
    report "grep" message
    searchUsage "grep"
  | .ok o => do
    let o := { o with letters := letters.map (fun c => (c, [])) ++ o.letters }
    let mut patterns := (o.values 'e').flatMap (Builtin.splitAt '\n')
    for path in o.values 'f' do
      match ← bytesAt path with
      | .ok text => patterns := patterns ++ plainLines text
      | .error e => do
        report "grep" (path ++ bytesOf (": " ++ e.reason))
        return 2
    let given := o.has 'e' || o.has 'f'
    if !given && o.operands.isEmpty then return (← searchUsage "grep")
    let o := if given then o else { o with operands := o.operands.drop 1 }
    let first := (spec.readUpTo args.length args).toOption.bind fun o => o.operands.head?
    let wanted := if given then patterns else Builtin.splitAt '\n' (first.getD [])
    if o.has 'E' then
      for p in wanted do
        match p with
        | c :: _ =>
          if "*+?".toList.contains c then
            report "grep" (bytesOf "warning: " ++ c :: bytesOf " at start of expression")
        | [] => pure ()
    match searchRegex o wanted with
    | .error fault => do
      let isBare := fault == .openBracket && wanted == [['[']]
      report "grep" (bytesOf (if isBare then "Invalid regular expression" else fault.message))
      pure 2
    | .ok regex =>
      let amount (c : Char) : Except (List Char) (Option Nat) :=
        match o.value? c with
        | none => .ok none
        | some s =>
          match digits? s with
          | some n => .ok (some n)
          | none =>
            .error (if c = 'm' then bytesOf "invalid max count" else
              s ++ bytesOf ": invalid context length argument")
      match amount 'A', amount 'B', amount 'C', amount 'm' with
      | .ok after, .ok before, .ok both, .ok most => do
        let paths := searchedPaths o (← get).files
        let several := 1 < o.operands.length || o.has 'r' || o.has 'R'
        let titles := (several || o.has 'H') && !o.has 'h'
        let s : Search :=
          ⟨regex, o, titles, (before.or both).getD 0, (after.or both).getD 0⟩
        let needsOne := o.has 'q' || o.has 'l' || o.has 'L'
        let most := if needsOne && most != some 0 then some 1 else most
        let (found, broken) ← searchEach s most paths
        let found := if o.has 'L' then !found else found
        pure (if broken && !(o.has 'q' && found) then 2 else if found then 0 else 1)
      | .error e, _, _, _ | _, .error e, _, _ | _, _, .error e, _ | _, _, _, .error e => do
        report "grep" e
        pure 2

/-- Shows the lines that a pattern matches. -/
def grep : List (List Char) → Run Nat := grepAs []

end Utility
end Shell
end Autograder

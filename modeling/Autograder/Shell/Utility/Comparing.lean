/-
# Comparing files

The utilities that show where two files differ: at which byte, or in which lines.
-/

import Autograder.Shell.Utility.Basic

namespace Autograder
namespace Shell
namespace Utility

/-- A change between two lists of lines: so many lines of the first from a position on go, and so many
of the second from a position on come instead. -/
structure Edit where
  left : Nat
  removed : Nat
  right : Nat
  added : Nat

/-- The lengths of the longest common subsequences of a list that starts with `a` and the ends of
another list, from those without `a`: both start with the one for the whole list. -/
def commonRow (a : List Char) : List (List Char) → List Nat → List Nat
  | b :: bs, without :: rest =>
    let row := commonRow a bs rest
    let here := if a = b then rest.headD 0 + 1 else max without (row.headD 0)
    here :: row
  | _, _ => [0]

/-- The rows of lengths for all ends of a list, the whole list first. -/
def commonRows (bs : List (List Char)) : List (List Char) → List (List Nat)
  | [] => [List.replicate (bs.length + 1) 0]
  | a :: as =>
    let rows := commonRows bs as
    commonRow a bs (rows.headD []) :: rows

/-- Adds a line that goes, or one that comes, to the changes in front of others. -/
def Edit.push (left right : Nat) (removes : Bool) : List Edit → List Edit
  | e :: es =>
    let touches := e.left = left + (if removes then 1 else 0) &&
      e.right = right + (if removes then 0 else 1)
    if touches then
      ⟨left, e.removed + (if removes then 1 else 0), right,
        e.added + (if removes then 0 else 1)⟩ :: es
    else ⟨left, if removes then 1 else 0, right, if removes then 0 else 1⟩ :: e :: es
  | [] => [⟨left, if removes then 1 else 0, right, if removes then 0 else 1⟩]

/-- The changes between two lists of lines, given the lengths of what their ends have in common. -/
def editsFrom : Nat → Nat → Nat → List (List Nat) → List (List Char) → List (List Char) → List Edit
  | 0, _, _, _, _, _ => []
  | _, _, _, _, [], [] => []
  | fuel + 1, i, j, rows, _ :: as, [] =>
    Edit.push i j true (editsFrom fuel (i + 1) j (rows.drop 1) as [])
  | fuel + 1, i, j, rows, [], _ :: bs =>
    Edit.push i j false (editsFrom fuel i (j + 1) (rows.map (List.drop 1)) [] bs)
  | fuel + 1, i, j, rows, a :: as, b :: bs =>
    let next := rows.drop 1
    if a = b then editsFrom fuel (i + 1) (j + 1) (next.map (List.drop 1)) as bs
    else if ((rows.headD []).drop 1).headD 0 ≤ (next.headD []).headD 0 then
      Edit.push i j true (editsFrom fuel (i + 1) j next as (b :: bs))
    else Edit.push i j false (editsFrom fuel i (j + 1) (rows.map (List.drop 1)) (a :: as) bs)

/-- The changes between two lists of lines. -/
def edits (as bs : List (List Char)) : List Edit :=
  editsFrom (as.length + bs.length + 1) 0 0 (commonRows bs as) as bs

/-- A range of lines as it is written: its first and last number, or the line before an empty one. -/
def spanText (start count : Nat) : List Char :=
  if count = 0 then decimal start
  else if count = 1 then decimal (start + 1)
  else decimal (start + 1) ++ ',' :: decimal (start + count)

/-- A line behind a mark. Where its line feed is missing, that is said. -/
def markedLine (mark : String) (line : List Char) : List Char :=
  bytesOf mark ++ line ++
    (if line.getLast? == some '\n' then [] else bytesOf "\n\\ No newline at end of file\n")

/-- A change in the usual form. -/
def Edit.show (e : Edit) (as bs : List (List Char)) : List Char :=
  let letter := if e.removed = 0 then 'a' else if e.added = 0 then 'd' else 'c'
  spanText e.left e.removed ++ letter :: spanText e.right e.added ++ ['\n'] ++
    ((as.drop e.left).take e.removed).flatMap (markedLine "< ") ++
    (if letter = 'c' then bytesOf "---\n" else []) ++
    ((bs.drop e.right).take e.added).flatMap (markedLine "> ")

/-- Changes that stand so near each other that the lines around them would meet. -/
def nearby (around : Nat) : List Edit → List (List Edit)
  | [] => []
  | e :: es =>
    match nearby around es with
    | (f :: fs) :: gs =>
      if f.left ≤ e.left + e.removed + 2 * around then (e :: f :: fs) :: gs
      else [e] :: (f :: fs) :: gs
    | gs => [e] :: gs

/-- The lines of a group of changes with their marks, from a line of the first list on. -/
def unifiedLines (as bs : List (List Char)) (from_ upTo : Nat) : List Edit → List Char
  | [] => ((as.drop from_).take (upTo - from_)).flatMap (markedLine " ")
  | e :: es =>
    ((as.drop from_).take (e.left - from_)).flatMap (markedLine " ") ++
      ((as.drop e.left).take e.removed).flatMap (markedLine "-") ++
      ((bs.drop e.right).take e.added).flatMap (markedLine "+") ++
      unifiedLines as bs (e.left + e.removed) upTo es

/-- A range of lines as the unified form writes it. -/
def unifiedSpan (start count : Nat) : List Char :=
  if count = 1 then decimal (start + 1)
  else decimal (if count = 0 then start else start + 1) ++ ',' :: decimal count

/-- A group of changes in the unified form, with some lines around them. -/
def unified (around : Nat) (as bs : List (List Char)) (g : List Edit) : List Char :=
  match g.head?, g.getLast? with
  | some first, some last =>
    let before := min around first.left
    let start := first.left - before
    let finish := min as.length (last.left + last.removed + around)
    let rightStart := first.right - before
    let rightFinish := last.right + last.added + (finish - (last.left + last.removed))
    bytesOf "@@ -" ++ unifiedSpan start (finish - start) ++ bytesOf " +" ++
      unifiedSpan rightStart (rightFinish - rightStart) ++ bytesOf " @@\n" ++
      unifiedLines as bs start finish g
  | _, _ => []

/-- A line without what does not matter in a comparison. -/
def comparedLine (o : Options) (line : List Char) : List Char :=
  let line := if o.has 'i' then line.map Char.toLower else line
  if o.has 'w' then line.filter fun c => !isBlank c
  else if o.has 'b' then
    ((line.foldl (fun out c =>
      if isBlank c && out.head? == some ' ' then out
      else if isBlank c then ' ' :: out
      else if c = '\n' && out.head? == some ' ' then c :: out.drop 1
      else c :: out) []).reverse)
  else line

/-- Shows in which lines two files differ. -/
def diff (args : List (List Char)) : Run Nat :=
  let words := [("brief", 'q'), ("unified", 'u'), ("report-identical-files", 's'),
    ("ignore-case", 'i'), ("ignore-all-space", 'w'), ("ignore-space-change", 'b')]
  withOptions "diff" ⟨"qusiwbraNBt", "U", words, 2, false⟩ args fun o => do
    let usage (message : List Char) : Run Nat := do
      report "diff" message
      report "diff" (bytesOf (hint "diff"))
      pure 2
    match o.operands with
    | [] => usage (bytesOf "missing operand after 'diff'")
    | [a] => usage (bytesOf "missing operand after " ++ inQuotes a)
    | _ :: _ :: c :: _ => usage (bytesOf "extra operand " ++ inQuotes c)
    | [a, b] => do
      let fs := (← get).files
      let inDirectory (p q : List Char) : List Char :=
        if fs.isDirectory (toText p) && !fs.isDirectory (toText q) then
          p ++ '/' :: bytesOf ((Path.names (toText q)).getLast?.getD "")
        else p
      let a' := inDirectory a b
      let b' := inDirectory b a
      match ← bytesAt a', ← bytesAt b' with
      | .error e, r => do
        report "diff" (plainFault a' e)
        match r with
        | .error e => report "diff" (plainFault b' e)
        | .ok _ => pure ()
        pure 2
      | _, .error e => do
        report "diff" (plainFault b' e)
        pure 2
      | .ok s, .ok t => do
        let as := wholeLines [] s
        let bs := wholeLines [] t
        let es := edits (as.map (comparedLine o)) (bs.map (comparedLine o))
        if es.isEmpty then
          if o.has 's' then
            writeLine (bytesOf "Files " ++ a' ++ bytesOf " and " ++ b' ++ bytesOf " are identical")
          pure 0
        else if o.has 'q' then
          writeLine (bytesOf "Files " ++ a' ++ bytesOf " and " ++ b' ++ bytesOf " differ")
          pure 1
        else if o.has 'u' || o.has 'U' then
          let around := ((o.value? 'U').bind digits?).getD 3
          let date := bytesOf "\t1970-01-01 00:00:00.000000000 +0000\n"
          write (bytesOf "--- " ++ a' ++ date ++ bytesOf "+++ " ++ b' ++ date ++
            (nearby around es).flatMap (unified around as bs))
          pure 1
        else
          write (es.flatMap fun e => e.show as bs)
          pure 1

/-- The first place where two texts differ, if both go on there: the number of its byte and of its
line. -/
def firstDifference (byte line : Nat) : List Char → List Char → Option (Nat × Nat)
  | a :: as, b :: bs =>
    if a = b then firstDifference (byte + 1) (if a = '\n' then line + 1 else line) as bs
    else some (byte, line)
  | _, _ => none

/-- Shows at which byte two files differ. -/
def cmp (args : List (List Char)) : Run Nat :=
  let words := [("silent", 's'), ("quiet", 's'), ("verbose", 'l'), ("bytes", 'n')]
  withOptions "cmp" ⟨"slb", "ni", words, 2, false⟩ args fun o => do
    let usage (message : List Char) : Run Nat := do
      report "cmp" message
      report "cmp" (bytesOf (hint "cmp"))
      pure 2
    match o.operands with
    | [] => usage (bytesOf "missing operand after 'cmp'")
    | a :: rest => do
      let b := rest.headD ['-']
      match ← bytesAt a, ← bytesAt b with
      | .error e, _ => do
        unless o.has 's' do report "cmp" (plainFault a e)
        pure 2
      | _, .error e => do
        unless o.has 's' do report "cmp" (plainFault b e)
        pure 2
      | .ok s, .ok t => do
        let limit := ((o.value? 'n').bind digits?).getD (max s.length t.length)
        let s := s.take limit
        let t := t.take limit
        if s = t then return 0
        if o.has 's' then return 1
        match firstDifference 1 1 s t with
        | some (byte, line) => do
          if o.has 'l' then
            let width := (decimal (min s.length t.length)).length
            for (x, i) in (s.zip t).zipIdx do
              if x.1 != x.2 then
                let octal (c : Char) : List Char := rightAligned 3 (Nat.toDigits 8 c.toNat)
                writeLine (rightAligned width (decimal (i + 1)) ++ ' ' :: octal x.1 ++
                  ' ' :: octal x.2)
          else
            writeLine (a ++ ' ' :: b ++ bytesOf " differ: char " ++ decimal byte ++
              bytesOf ", line " ++ decimal line)
        | none => pure ()
        if o.has 'l' || (firstDifference 1 1 s t).isNone then
          let (short, text) := if s.length < t.length then (a, s) else (b, t)
          let lines := text.count '\n'
          let place := if o.has 'l' then []
            else if text.getLast? == some '\n' then bytesOf ", line " ++ decimal lines
            else bytesOf ", in line " ++ decimal (lines + 1)
          if s.length != t.length then
            report "cmp" (bytesOf "EOF on " ++ short ++
              (if text.isEmpty then bytesOf " which is empty"
              else bytesOf " after byte " ++ decimal text.length ++ place))
        pure 1

end Utility
end Shell
end Autograder

/-
# Showing files

The utilities that show files, whole or in part, with numbers or counted.
-/

import Autograder.Shell.Printing
import Autograder.Shell.Utility.Basic

namespace Autograder
namespace Shell
namespace Utility

/-- A byte in letters: a caret stands before the letter of a control character, and `M-` before what
is beyond the first 128. -/
def visible (c : Char) : List Char :=
  let low (n : Nat) : List Char :=
    if n < 32 then ['^', Char.ofNat (n + 64)] else if n = 127 then ['^', '?'] else [Char.ofNat n]
  if c.toNat < 128 then low c.toNat else 'M' :: '-' :: low (c.toNat - 128)

/-- How files are shown: which lines get numbers, and how characters look. -/
structure ShowSpec where
  numbers : Bool
  onlyFull : Bool
  squeezes : Bool
  ends : Bool
  tabs : Bool
  controls : Bool

/-- A character as it is shown. -/
def ShowSpec.char (o : ShowSpec) (c : Char) : List Char :=
  if c = '\n' then if o.ends then ['$', '\n'] else ['\n']
  else if c = '\t' then if o.tabs then ['^', 'I'] else ['\t']
  else if o.controls then visible c else [c]

/-- How far files have been shown: the number of the next line, whether one starts here, and how many
empty ones come before. -/
structure Shown where
  number : Nat
  atStart : Bool
  blanks : Nat

/-- Text as it is shown, and how far that goes. -/
def ShowSpec.text (o : ShowSpec) (p : Shown) (s : List Char) : List Char × Shown :=
  let (out, p) := s.foldl (fun (out, p) c =>
    let isEmptyLine := p.atStart && c = '\n'
    let blanks := if isEmptyLine then p.blanks + 1 else if p.atStart then 0 else p.blanks
    if o.squeezes && isEmptyLine && 2 ≤ blanks then (out, { p with blanks := blanks })
    else
      let isNumbered := p.atStart && o.numbers && !(o.onlyFull && isEmptyLine)
      let start := if isNumbered then rightAligned 6 (decimal p.number) ++ ['\t'] else []
      ((start ++ o.char c).reverse ++ out,
        ⟨if isNumbered then p.number + 1 else p.number, c = '\n', blanks⟩)) ([], p)
  (out.reverse, p)

/-- Shows files one after the other, and comes to the exit code so far if all can be read. -/
def showEach (o : ShowSpec) (p : Shown) (status : Nat) : List (List Char) → Run Nat
  | [] => pure status
  | path :: paths => do
    match ← bytesAt path with
    | .ok bytes => do
      let (out, p) := o.text p bytes
      write out
      showEach o p status paths
    | .error e => do
      report "cat" (plainFault path e)
      if e == .badDescriptor then report "cat" (bytesOf ("closing standard input: " ++ e.reason))
      showEach o p 1 paths

/-- Shows files. -/
def cat (args : List (List Char)) : Run Nat :=
  let words := [("number", 'n'), ("number-nonblank", 'b'), ("squeeze-blank", 's'),
    ("show-ends", 'E'), ("show-tabs", 'T'), ("show-all", 'A'), ("show-nonprinting", 'v')]
  withOptions "cat" ⟨"nbsETAvetu", "", words, 1, false⟩ args fun o => do
    let all := o.has 'A'
    let spec : ShowSpec :=
      ⟨o.has 'n' || o.has 'b', o.has 'b', o.has 's', all || o.has 'E' || o.has 'e',
        all || o.has 'T' || o.has 't', all || o.has 'v' || o.has 'e' || o.has 't'⟩
    if ((← get).channels.lookup 1).isNone then
      report "cat" (bytesOf ("standard output: " ++ FileError.badDescriptor.reason))
      pure 1
    else showEach spec ⟨1, true, 0⟩ 0 o.orInput

/-- How much of a text is wanted: so many lines or bytes, counted from the start or the end. -/
structure Amount where
  count : Nat
  sign : Option Char
  bytes : Bool

/-- What a letter behind a number multiplies it with. -/
def multiplier? (s : List Char) : Option Nat :=
  match String.ofList s with
  | "" => some 1
  | "b" => some 512
  | "kB" => some 1000
  | "k" | "K" | "KiB" => some 1024
  | "MB" => some 1000000
  | "M" | "MiB" => some 1048576
  | "G" | "GiB" => some 1073741824
  | _ => none

/-- The amount that an argument gives. -/
def Amount.read? (bytes : Bool) (s : List Char) : Option Amount :=
  let (sign, r) := match s with
    | '+' :: r => (some '+', r)
    | '-' :: r => (some '-', r)
    | r => (none, r)
  let ds := r.takeWhile Char.isDigit
  if ds.isEmpty then none
  else (multiplier? (r.drop ds.length)).map fun n => ⟨Nat.ofDigitChars 10 ds 0 * n, sign, bytes⟩

/-- The parts of a text that are counted. -/
def Amount.units (a : Amount) (s : List Char) : List (List Char) :=
  if a.bytes then s.map fun c => [c] else wholeLines [] s

/-- The start of a text. -/
def Amount.start (a : Amount) (s : List Char) : List Char :=
  let us := a.units s
  (us.take (if a.sign == some '-' then us.length - a.count else a.count)).flatten

/-- The end of a text. -/
def Amount.finish (a : Amount) (s : List Char) : List Char :=
  let us := a.units s
  (us.drop (if a.sign == some '+' then a.count - 1 else us.length - a.count)).flatten

/-- How much is read from a pipe at once. -/
def blockSize : Nat := 8192

/-- The start of what is to be read, which is not read to its end if that is not needed. From a pipe,
whole blocks are taken. -/
def takeStart (a : Amount) : Run (Except FileError (List Char)) := do
  match ← Builtin.sourceOf 0 with
  | .error e => pure (.error e)
  | .ok (number, s) => do
    let start := a.start s.rest
    let lines := if a.bytes then start.length else start.count '\n'
    let enough := a.sign != some '-' && a.count ≤ lines
    let used :=
      if !enough then s.rest.length
      else if s.inFile then start.length
      else (start.length + blockSize - 1) / blockSize * blockSize
    Builtin.leave number s (s.rest.drop used) (!enough)
    pure (.ok start)

/-- What a file is called in a title. -/
def inputTitle (path : List Char) : List Char :=
  if path = ['-'] then bytesOf "standard input" else path

/-- A file that cannot be shown in part. -/
def partFault (path : List Char) (e : FileError) : List Char :=
  let title := inQuotes (inputTitle path)
  if e == .isADirectory || e == .badDescriptor then
    bytesOf "error reading " ++ title ++ bytesOf (": " ++ e.reason)
  else bytesOf "cannot open " ++ title ++ bytesOf (" for reading: " ++ e.reason)

/-- Shows a part of each of some files, each under its name if there are to be `titles`. -/
def showParts (name : String) (a : Amount) (titles : Bool) (first : Bool) (status : Nat) :
    List (List Char) → Run Nat
  | [] => pure status
  | path :: paths => do
    let isStart := name == "head"
    let text ← if path = ['-'] && isStart then takeStart a
      else do pure ((← bytesAt path).map (if isStart then a.start else a.finish))
    let title := (if first then [] else ['\n']) ++ bytesOf "==> " ++ inputTitle path ++
      bytesOf " <==\n"
    match text with
    | .ok s => do
      write ((if titles then title else []) ++ s)
      showParts name a titles false status paths
    | .error e => do
      if titles && e == .isADirectory then write title
      report name (partFault path e)
      showParts name a titles (first && e != .isADirectory) 1 paths

/-- Arguments where a number alone stands for so many lines. -/
def withAmountOption (name : String) : List (List Char) → List (List Char)
  | ('-' :: d :: n) :: args => if d.isDigit then ['-', 'n'] :: (d :: n) :: args
    else ('-' :: d :: n) :: args
  | ('+' :: d :: n) :: args =>
    if d.isDigit && name == "tail" then ['-', 'n'] :: ('+' :: d :: n) :: args
    else ('+' :: d :: n) :: args
  | args => args

/-- Shows the start of files, or their end. -/
def parts (name : String) (args : List (List Char)) : Run Nat :=
  let words := [("lines", 'n'), ("bytes", 'c'), ("quiet", 'q'), ("silent", 'q'), ("verbose", 'v'),
    ("follow", 'f')]
  let plain := if name == "tail" then "qvzfF" else "qvz"
  withOptions name ⟨plain, "nc", words, 1, false⟩ (withAmountOption name args) fun o => do
    let given := (o.letters.filter fun l => l.1 == 'n' || l.1 == 'c').getLast?
    let (letter, value) := given.getD ('n', ['1', '0'])
    match Amount.read? (letter == 'c') value with
    | none => do
      let what := if letter == 'c' then "invalid number of bytes: " else "invalid number of lines: "
      report name (bytesOf what ++ inQuotes value)
      pure 1
    | some a => do
      let titles := o.has 'v' || (1 < o.operands.length && !o.has 'q')
      let status ← showParts name a titles true 0 o.orInput
      if o.has 'f' || o.has 'F' then waitUntil (← get).limit
      pure status

/-- The number of words of a text. -/
def wordCount (s : List Char) : Nat :=
  let isSpace (c : Char) : Bool := c == ' ' || ('\t' ≤ c && c ≤ '\r')
  (s.foldl (fun (n, inWord) c =>
    if isSpace c then (n, false) else (if inWord then n else n + 1, true)) (0, false)).1

/-- The width of the widest line of a text. -/
def widestLine (s : List Char) : Nat :=
  ((s ++ ['\n']).foldl (fun (widest, width) c =>
    if c = '\n' || c = '\r' || c = '\x0C' then (max widest width, 0)
    else if c = '\t' then (widest, (width / 8 + 1) * 8)
    else if ' ' ≤ c && c ≤ '~' then (widest, width + 1)
    else (widest, width)) (0, 0)).1

/-- The numbers of lines, words and bytes that are asked for. -/
def counts (o : Options) (s : List Char) : List Nat :=
  let all := !"lwcmL".toList.any o.has
  (if all || o.has 'l' then [s.count '\n'] else []) ++
    (if all || o.has 'w' then [wordCount s] else []) ++
    (if o.has 'm' then [s.length] else []) ++
    (if all || o.has 'c' then [s.length] else []) ++
    (if o.has 'L' then [widestLine s] else [])

/-- The size of the file at a path; none for what is no file. -/
def fileSize? (m : Machine) (path : List Char) : Except FileError (Option Nat) :=
  if path = ['-'] then
    match ((m.channels.lookup 0).bind Channel.source).bind fun n => m.sources[n]? with
    | some s => .ok (if s.inFile && s.fault.isNone then some s.rest.length else none)
    | none => .error .badDescriptor
  else
    match m.files.find (toText path) with
    | .ok (_, .file bytes _) => .ok (some bytes.size)
    | .ok (_, .directory) => .ok none
    | .error e => if (device? (toText path)).isSome then .ok none else .error e

/-- How wide the columns of counts are: as wide as the sum of the sizes of all files, and wider if
some are no files. -/
def countWidth (m : Machine) (columns : Nat) (paths : List (List Char)) : Nat :=
  if paths.length ≤ 1 && columns = 1 then 1
  else
    let sizes := paths.map (fileSize? m)
    let total := sizes.foldl (fun n s =>
      match s with
      | .ok (some size) => n + size
      | _ => n) 0
    let isOther := sizes.any fun s => s matches .ok none
    max (if isOther then 7 else 1) (decimal total).length

/-- Counts lines, words and bytes. -/
def wc (args : List (List Char)) : Run Nat :=
  let words := [("lines", 'l'), ("words", 'w'), ("bytes", 'c'), ("chars", 'm'),
    ("max-line-length", 'L')]
  withOptions "wc" ⟨"lwcmL", "", words, 1, false⟩ args fun o => do
    let paths := o.orInput
    let m ← get
    let width := countWidth m (counts o []).length paths
    let line (ns : List Nat) (title : List Char) : List Char :=
      let columns := ns.map fun n => rightAligned width (decimal n)
      [' '].intercalate columns ++ (if title.isEmpty then [] else ' ' :: title) ++ ['\n']
    let mut total := counts o []
    let mut status := 0
    for path in paths do
      match ← bytesAt path with
      | .ok s => do
        write (line (counts o s) (if o.operands.isEmpty then [] else path))
        let widest (a b : Nat) : Nat := if o.has 'L' then max a b else a + b
        let ns := counts o s
        total := (List.zipWith (· + ·) total ns).dropLast ++
          (List.zipWith widest (total.drop (ns.length - 1)) (ns.drop (ns.length - 1)))
      | .error e => do
        report "wc" (if path = ['-'] then bytesOf ("'standard input': " ++ e.reason)
          else plainFault path e)
        if e == .isADirectory then write (line (counts o []) path)
        status := 1
    if 1 < o.operands.length then write (line total (bytesOf "total"))
    pure status

/-- A number in a column of its own, in one of three styles. -/
def numbered (style : String) (width : Nat) (n : Nat) : List Char :=
  let ds := decimal n
  match style with
  | "ln" => ds ++ List.replicate (width - ds.length) ' '
  | "rz" => List.replicate (width - ds.length) '0' ++ ds
  | _ => rightAligned width ds

/-- Shows files with numbers for the lines that are to have one. -/
def nl (args : List (List Char)) : Run Nat :=
  withOptions "nl" (.letters "p" "bnwsvi") args fun o =>
    let style := String.ofList ((o.value? 'n').getD "rn".toList)
    let width := ((o.value? 'w').bind digits?).getD 6
    let separator := (o.value? 's').getD ['\t']
    let first := ((o.value? 'v').bind digits?).getD 1
    let step := ((o.value? 'i').bind digits?).getD 1
    let body := (o.value? 'b').getD ['t']
    let blank := List.replicate (width + separator.length) ' '
    let change (s : List Char) : List Char :=
      ((plainLines s).foldl (fun (out, n) line =>
        if body = ['a'] || (body = ['t'] && !line.isEmpty) then
          (out ++ numbered style width n ++ separator ++ line ++ ['\n'], n + step)
        else (out ++ blank ++ line ++ ['\n'], n)) ([], first)).1
    filter "nl" change o.orInput

/-- The place to cut a line of at most `width` characters behind a blank, if there is one. -/
def breakAfterBlank (width : Nat) (s : List Char) : Nat :=
  let after := ((s.take width).reverse.dropWhile (!isBlank ·)).length
  if after = 0 then width else after

/-- A line cut into lines of a width at most. -/
def folded (width : Nat) (atBlanks : Bool) : Nat → List Char → List (List Char)
  | 0, s => [s]
  | fuel + 1, s =>
    if s.length ≤ width then [s]
    else
      let n := if atBlanks then breakAfterBlank width s else width
      s.take n :: folded width atBlanks fuel (s.drop n)

/-- Shows files with long lines cut. -/
def fold (args : List (List Char)) : Run Nat :=
  let args := match args with
    | ('-' :: d :: n) :: args => if d.isDigit then ['-', 'w'] :: (d :: n) :: args
      else ('-' :: d :: n) :: args
    | args => args
  withOptions "fold" ⟨"bs", "w", [("width", 'w'), ("spaces", 's'), ("bytes", 'b')], 1, false⟩ args
    fun o => do
      match digits? ((o.value? 'w').getD ['8', '0']) with
      | none | some 0 => do
        report "fold" (bytesOf "invalid number of columns: " ++ inQuotes ((o.value? 'w').getD []))
        pure 1
      | some width =>
        let change (s : List Char) : List Char :=
          (wholeLines [] s).flatMap fun line =>
            let feed := line.drop (withoutFeed line).length
            let plain := withoutFeed line
            ['\n'].intercalate (folded width (o.has 's') plain.length plain) ++ feed
        filter "fold" change o.orInput

/-- Shows files from the last line to the first. -/
def tac (args : List (List Char)) : Run Nat :=
  withOptions "tac" (.letters "" "") args fun o => do
    let fault (path : List Char) (e : FileError) : List Char :=
      if e == .isADirectory then path ++ bytesOf ": read error: Invalid argument"
      else bytesOf "failed to open " ++ inQuotes path ++ bytesOf (" for reading: " ++ e.reason)
    let (texts, whole) ← bytesAtAll "tac" fault o.orInput
    write (texts.flatMap fun (_, s) => (wholeLines [] s).reverse.flatten)
    pure (if whole then 0 else 1)

/-- Shows files with each line from its end to its start. -/
def rev (args : List (List Char)) : Run Nat :=
  withOptions "rev" (.letters "" "") args fun o =>
    let change (s : List Char) : List Char :=
      (wholeLines [] s).flatMap fun line =>
        (withoutFeed line).reverse ++ line.drop (withoutFeed line).length
    filter "rev" change o.orInput

/-- Shows what is read and writes it to files. -/
def tee (args : List (List Char)) : Run Nat :=
  withOptions "tee" ⟨"aip", "", [("append", 'a')], 1, false⟩ args fun o => do
    let mut status := 0
    let mut sinks := []
    for path in o.operands do
      match ← openSink (if o.has 'a' then .append else .overwrite) path with
      | .ok c => sinks := sinks ++ c.sink.toList
      | .error e => do
        report "tee" (plainFault path e)
        status := 1
    match ← takeInput with
    | .ok s => do
      write s
      for sink in sinks do writeTo sink s
    | .error e => do
      report "tee" (bytesOf ("read error: " ++ e.reason))
      status := 1
    pure status

/-- How often `yes` prints its text before it is seen to go on for ever. -/
def yesCount : Nat := 50000

/-- Prints a text again and again. -/
def yes (args : List (List Char)) : Run Nat := do
  let line := (if args.isEmpty then ['y'] else Printing.joined args) ++ ['\n']
  write (List.replicate yesCount line).flatten
  waitUntil (← get).limit
  pure 0

/-- Shows files with blanks instead of tabs. -/
def expand (args : List (List Char)) : Run Nat :=
  withOptions "expand" (.letters "i" "t") args fun o =>
    let width := max 1 (((o.value? 't').bind digits?).getD 8)
    let change (s : List Char) : List Char :=
      ((s.foldl (fun (out, column) c =>
        if c = '\n' then (c :: out, 0)
        else if c = '\t' then
          let n := width - column % width
          (List.replicate n ' ' ++ out, column + n)
        else (c :: out, column + 1)) ([], 0)).1).reverse
    filter "expand" change o.orInput

end Utility
end Shell
end Autograder

/-
# Sorting lines

The utilities that put lines in order, and those that compare lines that are in order.
-/

import Autograder.Number.Reader
import Autograder.Shell.Utility.Basic

namespace Autograder
namespace Shell
namespace Utility

/-- A place in a line: so many fields, and so many characters more, are skipped. -/
structure FieldPlace where
  fields : Nat
  chars : Nat
  skipsBlanks : Bool

/-- A part of each line that the order goes by, and how parts are compared: the letters of the options
say that. -/
structure SortKey where
  start : FieldPlace
  finish : Option FieldPlace
  letters : List Char

/-- What is behind so many fields of a line. Without a separator, blanks go in front of a field. With
`keep`, the separator behind the last one stays. -/
def afterFields (separator : Option Char) (keep : Bool) : Nat → List Char → List Char
  | 0, s => s
  | n + 1, s =>
    match separator with
    | some c =>
      let rest := s.dropWhile (· != c)
      if keep && n = 0 then rest else afterFields separator keep n (rest.drop 1)
    | none => afterFields separator keep n ((s.dropWhile isBlank).dropWhile (!isBlank ·))

/-- What is behind a place in a line. -/
def FieldPlace.after (p : FieldPlace) (separator : Option Char) (s : List Char) : List Char :=
  let rest := afterFields separator false p.fields s
  (if p.skipsBlanks then rest.dropWhile isBlank else rest).drop p.chars

/-- What is behind the place where a key ends: without characters, that is the end of a field. -/
def FieldPlace.afterEnd (p : FieldPlace) (separator : Option Char) (s : List Char) : List Char :=
  if p.chars = 0 then afterFields separator true (p.fields + 1) s else p.after separator s

/-- The part of a line that the order goes by. -/
def SortKey.part (k : SortKey) (separator : Option Char) (line : List Char) : List Char :=
  let start := k.start.after separator line
  match k.finish with
  | none => start
  | some p => start.take (start.length - (p.afterEnd separator line).length)

/-- A number at the start of a text: whether it is negative, its digits in front of the point, and
those behind it. -/
def leadingNumber (s : List Char) : Bool × List Char × List Char :=
  let s := s.dropWhile isBlank
  let (negative, s) := match s with
    | '-' :: r => (true, r)
    | r => (false, r)
  let whole := s.takeWhile Char.isDigit
  match s.drop whole.length with
  | '.' :: r => (negative, whole, r.takeWhile Char.isDigit)
  | _ => (negative, whole, [])

/-- Two texts compared by the numbers that they start with. -/
def compareNumbers (a b : List Char) : Ordering :=
  let (x, wholeA, placesA) := leadingNumber a
  let (y, wholeB, placesB) := leadingNumber b
  let places := max placesA.length placesB.length
  let scaled (negative : Bool) (whole part : List Char) : Int :=
    let n : Int := Nat.ofDigitChars 10 (whole ++ part ++
      List.replicate (places - part.length) '0') 0
    if negative then -n else n
  compare (scaled x wholeA placesA) (scaled y wholeB placesB)

/-- The rank of the unit behind a number. -/
def unitRank (s : List Char) : Nat :=
  let (negative, whole, places) := leadingNumber s
  let rest := (s.dropWhile isBlank).drop (whole.length + if negative then 1 else 0)
  let rest := if rest.head? == some '.' then rest.drop (places.length + 1) else rest
  match rest with
  | c :: _ => ("kKMGTPEZY".toList.idxOf? c).elim 0 fun n => max n 1
  | [] => 0

/-- Two texts compared by the numbers that they start with and the units behind them. -/
def compareSizes (a b : List Char) : Ordering :=
  let sign (s : List Char) : Int := if (leadingNumber s).1 then -1 else 1
  let rank (s : List Char) : Int := sign s * unitRank s
  (compare (rank a) (rank b)).then (compareNumbers a b)

/-- Two texts compared as numbers that may have an exponent; what is no number comes first. -/
def compareReals (a b : List Char) : Ordering :=
  let read (s : List Char) : Option Float :=
    let s := s.dropWhile isBlank
    let isPart (c : Char) : Bool := c.isDigit || "+-.eE".toList.contains c
    let s := s.takeWhile isPart
    (List.range (s.length + 1)).reverse.findSome? fun n => Number.read? (s.take n)
  match read a, read b with
  | none, none => .eq
  | none, some _ => .lt
  | some _, none => .gt
  | some x, some y => if x < y then .lt else if y < x then .gt else .eq

/-- Two texts compared piece by piece, where pieces of digits are numbers. -/
def compareVersions : Nat → List Char → List Char → Ordering
  | 0, _, _ => .eq
  | fuel + 1, a, b =>
    let wordA := a.takeWhile (!·.isDigit)
    let wordB := b.takeWhile (!·.isDigit)
    let restA := a.drop wordA.length
    let restB := b.drop wordB.length
    let numberA := restA.takeWhile Char.isDigit
    let numberB := restB.takeWhile Char.isDigit
    if a.isEmpty && b.isEmpty then .eq
    else
      ((compareOfLessAndEq wordA wordB).then
        (compare (Nat.ofDigitChars 10 numberA 0) (Nat.ofDigitChars 10 numberB 0))).then
        (compareVersions fuel (restA.drop numberA.length) (restB.drop numberB.length))

/-- A text as it is compared: without some characters, or in capital letters. -/
def sortText (letters : List Char) (s : List Char) : List Char :=
  let s := if letters.contains 'b' then s.dropWhile isBlank else s
  let s := if letters.contains 'd' then s.filter fun c => c.isAlphanum || isBlank c else s
  let s := if letters.contains 'i' then s.filter fun c => ' ' ≤ c && c ≤ '~' else s
  if letters.contains 'f' then s.map Char.toUpper else s

/-- Two parts of lines compared as the letters of the options say. -/
def compareParts (letters : List Char) (a b : List Char) : Ordering :=
  let order :=
    if letters.contains 'n' then compareNumbers a b
    else if letters.contains 'h' then compareSizes a b
    else if letters.contains 'g' then compareReals a b
    else
      let x := sortText letters a
      let y := sortText letters b
      if letters.contains 'V' then compareVersions (x.length + y.length + 1) x y
      else compareOfLessAndEq x y
  if letters.contains 'r' then order.swap else order

/-- How lines are put in order. -/
structure SortSpec where
  keys : List SortKey
  letters : List Char
  separator : Option Char

/-- Two lines compared by their keys, or as a whole if there are none. -/
def SortSpec.compareKeys (o : SortSpec) (a b : List Char) : Ordering :=
  if o.keys.isEmpty then compareParts o.letters a b
  else
    o.keys.foldl (fun order k =>
      let letters := if k.letters.isEmpty then o.letters else k.letters
      order.then (compareParts letters (k.part o.separator a) (k.part o.separator b))) .eq

/-- Two lines compared; lines whose keys are equal are compared as a whole, unless they may stay as
they are. -/
def SortSpec.compare (o : SortSpec) (a b : List Char) : Ordering :=
  let last := compareOfLessAndEq a b
  (o.compareKeys a b).then
    (if o.letters.contains 's' || o.letters.contains 'u' then .eq
    else if o.letters.contains 'r' then last.swap else last)

/-- Lines without those that are equal to the one before. -/
def withoutRepeats (equal : List Char → List Char → Bool) : List (List Char) → List (List Char)
  | a :: b :: rest =>
    if equal a b then withoutRepeats equal (a :: rest) else a :: withoutRepeats equal (b :: rest)
  | ls => ls
termination_by ls => ls.length

/-- Lines in order. -/
def SortSpec.sorted (o : SortSpec) (ls : List (List Char)) : List (List Char) :=
  let ls := ls.mergeSort fun a b => o.compare a b != .gt
  if o.letters.contains 'u' then withoutRepeats (fun a b => o.compareKeys a b == .eq) ls else ls

/-- The letters of the options that say how parts are compared. -/
def sortLetters : String := "bdfghinrV"

/-- The place that a text gives, counted from one, and what follows it. -/
def readPlace? (usualChars : Nat) (s : List Char) : Option (FieldPlace × List Char) :=
  let ds := s.takeWhile Char.isDigit
  match digits? ds, s.drop ds.length with
  | some n, '.' :: r =>
    let cs := r.takeWhile Char.isDigit
    some (⟨n - 1, (digits? cs).getD 0, false⟩, r.drop cs.length)
  | some n, r => some (⟨n - 1, usualChars, false⟩, r)
  | none, _ => none

/-- The key that a text gives. -/
def SortKey.read? (s : List Char) : Option SortKey := do
  let (start, r) ← readPlace? 1 s
  let startLetters := r.takeWhile sortLetters.toList.contains
  let start := { start with chars := start.chars - 1, skipsBlanks := startLetters.contains 'b' }
  match r.drop startLetters.length with
  | [] => some ⟨start, none, startLetters⟩
  | ',' :: r => do
    let (finish, r) ← readPlace? 0 r
    let endLetters := r.takeWhile sortLetters.toList.contains
    if endLetters.length = r.length then
      some ⟨start, some { finish with skipsBlanks := endLetters.contains 'b' },
        startLetters ++ endLetters⟩
    else none
  | _ => none

/-- A file that cannot be sorted. -/
def sortFault (path : List Char) (e : FileError) : List Char :=
  bytesOf (if e == .isADirectory then "read failed: " else "cannot read: ") ++
    titleOf path ++ bytesOf (": " ++ e.reason)

/-- The first line that is not in order, and its number. -/
def SortSpec.disorder? (o : SortSpec) : Nat → List (List Char) → Option (Nat × List Char)
  | n, a :: b :: rest =>
    let order := if o.letters.contains 'u' then o.compareKeys a b else o.compare a b
    if order == .gt || (o.letters.contains 'u' && order == .eq) then some (n + 1, b)
    else disorder? o (n + 1) (b :: rest)
  | _, _ => none

/-- Shows lines in order. -/
def sort (args : List (List Char)) : Run Nat :=
  let words := [("numeric-sort", 'n'), ("reverse", 'r'), ("unique", 'u'), ("key", 'k'),
    ("field-separator", 't'), ("ignore-case", 'f'), ("stable", 's'), ("output", 'o'),
    ("check", 'c'), ("ignore-leading-blanks", 'b'), ("general-numeric-sort", 'g'),
    ("human-numeric-sort", 'h'), ("version-sort", 'V'), ("dictionary-order", 'd'), ("merge", 'm'),
    ("zero-terminated", 'z')]
  withOptions "sort" ⟨"bdfghinrVuscCmz", "kto", words, 2, false⟩ args fun o => do
    let keys := o.values 'k'
    let separator := o.value? 't'
    match keys.find? fun k => (SortKey.read? k).isNone with
    | some k => do
      let message := if k.head?.any Char.isDigit then "stray character in field spec: invalid field "
          ++ "specification " else "invalid number at field start: invalid count at start of "
      report "sort" (bytesOf message ++ inQuotes k)
      return 2
    | none => pure ()
    if separator == some [] then
      report "sort" (bytesOf "empty tab")
      return 2
    match separator.filter fun t => 1 < t.length && t != ['\\', '0'] with
    | some t => do
      report "sort" (bytesOf "multi-character tab " ++ inQuotes t)
      return 2
    | none => pure ()
    let inherit (k : SortKey) : SortKey :=
      if k.letters.isEmpty && o.has 'b' then { k with
        start := { k.start with skipsBlanks := true }
        finish := k.finish.map fun p => { p with skipsBlanks := true } }
      else k
    let spec : SortSpec :=
      ⟨(keys.filterMap SortKey.read?).map inherit, o.letters.map Prod.fst,
        separator.bind List.head?⟩
    let (texts, whole) ← bytesAtAll "sort" sortFault o.orInput
    if !whole then return 2
    let ls := texts.flatMap fun (_, s) => plainLines s
    if o.has 'c' || o.has 'C' then
      match spec.disorder? 1 ls with
      | none => pure 0
      | some (n, line) => do
        unless o.has 'C' do
          report "sort" (o.orInput.headD [] ++ ':' :: decimal n ++ bytesOf ": disorder: " ++ line)
        pure 1
    else
      let out := ofLines (spec.sorted ls)
      match o.value? 'o' with
      | none => do
        write out
        pure 0
      | some path => do
        match ← openSink .overwrite path with
        | .ok c => do
          for sink in c.sink.toList do writeTo sink out
          pure 0
        | .error e => do
          report "sort" (bytesOf "open failed: " ++ path ++ bytesOf (": " ++ e.reason))
          pure 2

/-- Lines that are equal and stand together. -/
def groups (equal : List Char → List Char → Bool) : List (List Char) → List (List (List Char))
  | [] => []
  | a :: rest =>
    match groups equal rest with
    | (b :: bs) :: gs => if equal a b then (a :: b :: bs) :: gs else [a] :: (b :: bs) :: gs
    | gs => [a] :: gs

/-- Shows lines without their repetitions. -/
def uniq (args : List (List Char)) : Run Nat :=
  let words := [("count", 'c'), ("repeated", 'd'), ("unique", 'u'), ("ignore-case", 'i'),
    ("skip-fields", 'f'), ("skip-chars", 's'), ("check-chars", 'w'), ("all-repeated", 'D')]
  withOptions "uniq" ⟨"cduiDz", "fsw", words, 1, false⟩ args fun o => do
    let amount (c : Char) : Option Nat := (o.value? c).bind digits?
    let part (line : List Char) : List Char :=
      let s := (afterFields none false ((amount 'f').getD 0) line).drop ((amount 's').getD 0)
      let s := match amount 'w' with
        | some n => s.take n
        | none => s
      if o.has 'i' then s.map Char.toUpper else s
    let shown (g : List (List Char)) : List (List Char) :=
      let line := g.headD []
      let line := if o.has 'c' then rightAligned 7 (decimal g.length) ++ ' ' :: line else line
      if o.has 'D' then if 1 < g.length then g else []
      else if (o.has 'd' && g.length = 1) || (o.has 'u' && 1 < g.length) then [] else [line]
    match o.operands with
    | _ :: _ :: extra :: _ => misused "uniq" (bytesOf "extra operand " ++ inQuotes extra) 1
    | paths => do
      match ← bytesAt (paths.headD ['-']) with
      | .error e => do
        report "uniq" (plainFault (paths.headD ['-']) e)
        pure 1
      | .ok s => do
        let out := ofLines ((groups (fun a b => part a == part b) (plainLines s)).flatMap shown)
        match paths.drop 1 with
        | [] => write out
        | path :: _ => do
          match ← openSink .overwrite path with
          | .ok c => for sink in c.sink.toList do writeTo sink out
          | .error e => report "uniq" (plainFault path e)
        pure 0

/-- The lines of two texts in order: those of the first only, of the second only, and of both, with
their column. -/
def merged : Nat → List (List Char) → List (List Char) → List (Nat × List Char)
  | 0, _, _ => []
  | _, [], bs => bs.map fun b => (2, b)
  | _, as, [] => as.map fun a => (1, a)
  | fuel + 1, a :: as, b :: bs =>
    match compareOfLessAndEq a b with
    | .lt => (1, a) :: merged fuel as (b :: bs)
    | .gt => (2, b) :: merged fuel (a :: as) bs
    | .eq => (3, a) :: merged fuel as bs

/-- Shows what two files have in common and what not. -/
def comm (args : List (List Char)) : Run Nat :=
  withOptions "comm" (.letters "123" "") args fun o => do
    match o.operands with
    | [] => misused "comm" (bytesOf "missing operand") 1
    | [a] => misused "comm" (bytesOf "missing operand after " ++ inQuotes a) 1
    | a :: b :: _ => do
      match ← bytesAt a, ← bytesAt b with
      | .ok s, .ok t => do
        let ls := plainLines s
        let rs := plainLines t
        let isHidden (n : Nat) : Bool := o.has (Char.ofNat ('0'.toNat + n))
        let line (n : Nat) (s : List Char) : List Char :=
          let before := ((List.range n).drop 1).filter fun n => !isHidden n
          if isHidden n then [] else List.replicate before.length '\t' ++ s ++ ['\n']
        write ((merged (ls.length + rs.length + 1) ls rs).flatMap fun (n, s) => line n s)
        pure 0
      | .error e, _ => do
        report "comm" (plainFault a e)
        pure 1
      | _, .error e => do
        report "comm" (plainFault b e)
        pure 1

end Utility
end Shell
end Autograder

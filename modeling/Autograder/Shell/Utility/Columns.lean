/-
# Columns and characters

The utilities that cut lines into fields, join lines, and replace characters.
-/

import Autograder.Shell.Printing
import Autograder.Shell.Utility.Basic

namespace Autograder
namespace Shell
namespace Utility

/-- A range of positions, counted from one: from a first one to a last one, which may be missing. -/
structure Span where
  first : Nat
  last : Option Nat

/-- A position is in a range. -/
def Span.contains (s : Span) (n : Nat) : Bool := s.first ≤ n && s.last.all fun l => n ≤ l

/-- The range that a text gives, or what is wrong with it. -/
def Span.read (what : String) (s : List Char) : Except (List Char) Span :=
  let invalid : Except (List Char) Span :=
    .error (bytesOf ("invalid " ++ what ++ " ") ++ inQuotes s)
  let numberedFrom : Except (List Char) Span :=
    .error (bytesOf (if what = "field value" then "fields are numbered from 1"
      else "byte/character positions are numbered from 1"))
  let left := s.takeWhile (· != '-')
  match digits? left, s.drop left.length with
  | some 0, _ => numberedFrom
  | some n, [] => .ok ⟨n, some n⟩
  | some n, ['-'] => .ok ⟨n, none⟩
  | some n, _ :: right =>
    match digits? right with
    | some m => if m < n then .error (bytesOf "invalid decreasing range") else .ok ⟨n, some m⟩
    | none => invalid
  | none, ['-'] => .error (bytesOf "invalid range with no endpoint: -")
  | none, _ :: right =>
    match left, digits? right with
    | [], some 0 => numberedFrom
    | [], some m => .ok ⟨1, some m⟩
    | _, _ => invalid
  | none, [] => invalid

/-- A position is in one of some ranges. -/
def isSelected (spans : List Span) (complement : Bool) (n : Nat) : Bool :=
  (spans.any fun s => s.contains n) != complement

/-- What is at the selected positions of a list. -/
def selected {α : Type} (spans : List Span) (complement : Bool) (xs : List α) : List α :=
  (xs.zipIdx.filter fun x => isSelected spans complement (x.2 + 1)).map Prod.fst

/-- Shows parts of each line: some of its characters or fields. -/
def cut (args : List (List Char)) : Run Nat :=
  let words := [("delimiter", 'd'), ("fields", 'f'), ("characters", 'c'), ("bytes", 'b'),
    ("only-delimited", 's'), ("complement", 'C'), ("output-delimiter", 'O')]
  withOptions "cut" ⟨"snzC", "dfcbO", words, 1, false⟩ args fun o => do
    let byChars := (o.value? 'c').or (o.value? 'b')
    let byFields := o.value? 'f'
    match byChars, byFields with
    | some _, some _ =>
      misused "cut" (bytesOf "only one list may be specified") 1
    | none, none =>
      misused "cut" (bytesOf "you must specify a list of bytes, characters, or fields") 1
    | _, _ =>
      let what := if byFields.isSome then "field value" else "byte/character position"
      let isBreak (c : Char) : Bool := c == ',' || isBlank c
      let list := ((byFields.or byChars).getD []).map fun c => if isBreak c then ',' else c
      match (Builtin.splitAt ',' list).mapM (Span.read what) with
      | .error message => misused "cut" message 1
      | .ok spans =>
        let delimiter := (o.value? 'd').getD ['\t']
        if byFields.isNone && o.has 'd' then
          misused "cut"
            (bytesOf "an input delimiter may be specified only when operating on fields") 1
        else if byFields.isNone && o.has 's' then
          misused "cut" (bytesOf ("suppressing non-delimited lines makes sense\n\tonly when "
            ++ "operating on fields")) 1
        else if 1 < delimiter.length then
          misused "cut" (bytesOf "the delimiter must be a single character") 1
        else
          let d := delimiter.headD '\x00'
          let joint := (o.value? 'O').getD (if byFields.isSome then [d] else [])
          let change (line : List Char) : List (List Char) :=
            if byFields.isNone then [selected spans (o.has 'C') line]
            else if line.contains d then
              [joint.intercalate (selected spans (o.has 'C') (Builtin.splitAt d line))]
            else if o.has 's' then [] else [line]
          filter "cut" (fun s => ofLines ((plainLines s).flatMap change)) o.orInput

/-- The separators between columns, in turn. -/
def turns (separators : List Char) (n : Nat) : List Char :=
  let all := Printing.unescape separators.length separators
  let c := if all.1.isEmpty then '\x00' else all.1.getD (n % all.1.length) '\t'
  if c = '\x00' then [] else [c]

/-- Some texts with separators between them, in turn. -/
def joinedInTurn (separators : List Char) (texts : List (List Char)) : List Char :=
  texts.zipIdx.flatMap fun (s, i) => (if i = 0 then [] else turns separators (i - 1)) ++ s

/-- The rows of a table that is given by its columns. -/
def rowsOf : Nat → List (List (List Char)) → List (List (List Char))
  | 0, _ => []
  | n + 1, columns =>
    if columns.all List.isEmpty then []
    else columns.map (fun c => c.headD []) :: rowsOf n (columns.map (List.drop 1))

/-- Lines dealt out to so many columns. -/
def dealt (n : Nat) (ls : List (List Char)) : List (List (List Char)) :=
  (List.range n).map fun i => (ls.zipIdx.filter fun x => x.2 % n = i).map Prod.fst

/-- Shows the lines of files side by side. -/
def paste (args : List (List Char)) : Run Nat :=
  withOptions "paste" ⟨"sz", "d", [("delimiters", 'd'), ("serial", 's')], 1, false⟩ args
    fun o => do
      let separators := (o.value? 'd').getD ['\t']
      let inputs := (o.orInput.filter (· == ['-'])).length
      let shared ← if 1 < inputs && !o.has 's' then do
          match ← takeInput with
          | .ok s => pure (dealt inputs (plainLines s))
          | .error _ => pure []
        else pure []
      let mut left := shared
      let mut columns := []
      for path in o.orInput do
        if path = ['-'] && !shared.isEmpty then
          columns := columns ++ left.take 1
          left := left.drop 1
        else
          match ← bytesAt path with
          | .ok s => columns := columns ++ [plainLines s]
          | .error e => do
            report "paste" (plainFault path e)
            return 1
      let rows := if o.has 's' then columns
        else rowsOf (columns.foldl (fun n c => max n c.length) 0) columns
      write (ofLines (rows.map (joinedInTurn separators)))
      pure 0

/-- All characters of a class, in their order. -/
def membersOf (f : Char → Bool) : List Char := ((List.range 256).map Char.ofNat).filter f

/-- A set of characters, which may end with one that is repeated as often as it is needed. -/
structure CharSet where
  chars : List Char
  /-- The place of the repeated character, and which it is. -/
  fill : Option (Nat × Char)

/-- The characters that a text stands for. -/
def charSetFrom : Nat → List Char → Except (List Char) CharSet
  | 0, _ => .ok ⟨[], none⟩
  | _, [] => .ok ⟨[], none⟩
  | fuel + 1, s =>
    let put (cs : List Char) (t : CharSet) : CharSet :=
      ⟨cs ++ t.chars, t.fill.map fun f => (f.1 + cs.length, f.2)⟩
    let char (s : List Char) : Char × List Char :=
      match s with
      | '\\' :: c :: r => if c = 'e' then ('e', r) else Printing.escaped (c :: r)
      | c :: r => (c, r)
      | [] => ('\x00', [])
    let one (s : List Char) : Except (List Char) CharSet :=
      let (c, r) := char s
      match r with
      | '-' :: d :: r =>
        let (d, r) := char (d :: r)
        if d < c then
          .error (bytesOf "range-endpoints of " ++ inQuotes [c, '-', d] ++
            bytesOf " are in reverse collating sequence order")
        else
          let cs := (List.range (d.toNat + 1 - c.toNat)).map fun n => Char.ofNat (c.toNat + n)
          (charSetFrom fuel r).map (put cs)
      | r => (charSetFrom fuel r).map (put [c])
    match s with
    | '[' :: ':' :: r =>
      let name := r.takeWhile (· != ':')
      match r.drop name.length, Pattern.class? (String.ofList name) with
      | ':' :: ']' :: r, some f => (charSetFrom fuel r).map (put (membersOf f))
      | ':' :: ']' :: _, none =>
        .error (bytesOf "invalid character class " ++ inQuotes name)
      | _, _ => one s
    | '[' :: '=' :: c :: '=' :: ']' :: r => (charSetFrom fuel r).map (put [c])
    | '[' :: r =>
      let (c, r) := char r
      match r with
      | '*' :: r =>
        let ds := r.takeWhile Char.isDigit
        match r.drop ds.length with
        | ']' :: r =>
          let n := Nat.ofDigitChars (if ds.head? == some '0' then 8 else 10) ds 0
          if n = 0 then do
            let t ← charSetFrom fuel r
            pure { t with fill := some (0, c) }
          else (charSetFrom fuel r).map (put (List.replicate n c))
        | _ => one s
      | _ => one s
    | s => one s

/-- The characters that a text stands for. -/
def CharSet.read (s : List Char) : Except (List Char) CharSet := charSetFrom (s.length + 1) s

/-- The characters, as many as are needed: the repeated one, or else the last one, fills up. -/
def CharSet.upTo (t : CharSet) (n : Nat) : List Char :=
  let missing := n - t.chars.length
  match t.fill with
  | some (place, c) => t.chars.take place ++ List.replicate missing c ++ t.chars.drop place
  | none =>
    match t.chars.getLast? with
    | some c => t.chars ++ List.replicate missing c
    | none => []

/-- A text without repetitions of some characters. -/
def withoutRuns (isIn : Char → Bool) (s : List Char) : List Char :=
  (s.foldl (fun out c =>
    if isIn c && out.head? == some c then out else c :: out) []).reverse

/-- What is done with characters: which of them go, which are replaced by which, and which are not
repeated. -/
structure CharChange where
  removed : List Char
  replaced : List (Char × Char)
  squeezed : List Char

/-- A text after a change of characters. -/
def CharChange.apply (c : CharChange) (s : List Char) : List Char :=
  let table := (List.range 256).map fun n =>
    let d := Char.ofNat n
    if c.removed.contains d then none else some ((c.replaced.lookup d).getD d)
  let table := table.toArray
  let s := s.filterMap fun d => (table[d.toNat]?).join
  if c.squeezed.isEmpty then s else withoutRuns c.squeezed.contains s

/-- The change of characters that options and one or two sets ask for. -/
def CharChange.read (o : Options) (a : List Char) (b : Option (List Char)) :
    Except (List Char) CharChange := do
  let first ← CharSet.read a
  let second ← b.mapM CharSet.read
  let complements := o.has 'c' || o.has 'C'
  let chars := if complements then membersOf fun c => !first.chars.contains c else first.chars
  match second, o.has 'd', o.has 's' with
  | none, true, _ => pure ⟨chars, [], []⟩
  | none, false, _ => pure ⟨[], [], chars⟩
  | some t, true, _ => pure ⟨chars, [], t.upTo 0⟩
  | some t, false, squeezes =>
    let chars := if o.has 't' then chars.take (t.upTo 0).length else chars
    let others := t.upTo chars.length
    if others.isEmpty && !chars.isEmpty then
      throw (bytesOf "when not truncating set1, string2 must be non-empty")
    pure ⟨[], (chars.zip others).reverse, if squeezes then others else []⟩

/-- What is wrong with the number of sets, if anything is. -/
def setsFault? (o : Options) : Option (List Char) :=
  let both := o.has 'd' && o.has 's'
  let one := o.has 'd' || o.has 's'
  match o.operands with
  | [] => some (bytesOf "missing operand")
  | [a] =>
    if one && !both then none
    else
      let aim := if both then "both deleting and squeezing repeats." else "translating."
      some (bytesOf "missing operand after " ++ inQuotes a ++
        bytesOf ("\nTwo strings must be given when " ++ aim))
  | [_, b] =>
    if o.has 'd' && !both then
      some (bytesOf "extra operand " ++ inQuotes b ++
        bytesOf "\nOnly one string may be given when deleting without squeezing repeats.")
    else none
  | _ :: _ :: c :: _ => some (bytesOf "extra operand " ++ inQuotes c)

/-- Replaces, removes or squeezes characters. -/
def tr (args : List (List Char)) : Run Nat :=
  let words := [("complement", 'c'), ("delete", 'd'), ("squeeze-repeats", 's'),
    ("truncate-set1", 't')]
  withOptions "tr" ⟨"cCdst", "", words, 1, true⟩ args fun o => do
    match setsFault? o with
    | some message => misused "tr" message 1
    | none =>
      match CharChange.read o (o.operands.headD []) o.operands[1]? with
      | .error message => do
        report "tr" message
        pure 1
      | .ok change => filter "tr" change.apply [['-']]

end Utility
end Shell
end Autograder

/-
# Reading programs on records

Expressions are read by how tightly their operators bind: first choices, then `||`, `&&`, `in`, the
matching operators, comparisons, texts side by side, sums, products, signs and powers. Where values
are printed, a greater-than sign leads to a file and does not compare.
-/

import Autograder.Shell.Records.Token

namespace Autograder
namespace Shell
namespace Records

/-- Where the reading of a program stands: the tokens that are left, and how many braces and
parentheses are open. -/
structure Progress where
  rest : List (Token × Nat)
  braces : Nat
  parentheses : Nat
  /-- How many loops there are around, and whether that is in a function, or where there is no
  record. -/
  loops : Nat
  inFunction : Bool
  hasRecord : Bool
  /-- The functions that are called, with the lines of the calls. -/
  calls : List (List Char × Nat)

/-- A step of the reading. -/
abbrev Reading := StateT Progress (Except Fault)

/-- What the place of an expression allows: a greater-than sign that compares, and the word `in`. -/
structure Place where
  greater : Bool
  membership : Bool

namespace Reading

/-- The next token. -/
def peek : Reading Token := do pure (((← get).rest.head?.map Prod.fst).getD .programEnd)

/-- The token behind the next one. -/
def second : Reading Token := do
  pure ((((← get).rest.drop 1).head?.map Prod.fst).getD .programEnd)

/-- The line of the next token. -/
def line : Reading Nat := do pure (((← get).rest.head?.map Prod.snd).getD 1)

/-- Passes over the next token. -/
def skip : Reading Unit := do
  let t ← peek
  modify fun p =>
    { p with
      rest := p.rest.drop 1
      braces := if t.is "\x7b" then p.braces + 1 else if t.is "\x7d" then p.braces - 1 else p.braces
      parentheses := if t.is "(" then p.parentheses + 1 else if t.is ")" then p.parentheses - 1
        else p.parentheses }

/-- A token that cannot stand where it does. -/
def fail {α : Type} : Reading α := do
  let t ← peek
  let p ← get
  match t with
  | .programEnd =>
    if 0 < p.parentheses then throw (.missing (← line) ")" "end of file")
    else if 0 < p.braces then throw (.missing (← line) "\x7d" "end of file")
    else throw (.unexpected (← line) t.title)
  | t =>
    if t.is "\x7d" && 0 < p.parentheses then throw (.missing (← line) ")" "\x7d")
    else throw (.unexpected (← line) t.title)

/-- Passes over the next token if it is a given one, and tells whether it is. -/
def skipIf (s : String) : Reading Bool := do
  if (← peek).is s then
    skip
    pure true
  else pure false

/-- Passes over a token that has to come next. -/
def expect (s : String) : Reading Unit := do
  unless ← skipIf s do fail

/-- Passes over line feeds. -/
def skipLines : Nat → Reading Unit
  | 0 => pure ()
  | fuel + 1 => do
    match ← peek with
    | .lineEnd => do
      skip
      skipLines fuel
    | _ => pure ()

/-- Passes over line feeds and semicolons. -/
def skipEnds : Nat → Reading Unit
  | 0 => pure ()
  | fuel + 1 => do
    let t ← peek
    match t with
    | .lineEnd => do
      skip
      skipEnds fuel
    | _ => if t.is ";" then do skip; skipEnds fuel else pure ()

/-- A name. -/
def name : Reading (List Char) := do
  match ← peek with
  | .word s => do
    skip
    pure s
  | _ => fail

end Reading

open Reading

/-- The functions that every program has. -/
def usualFunctions : List String :=
  ["atan2", "close", "cos", "exp", "fflush", "gsub", "index", "int", "length", "log", "match",
    "rand", "sin", "split", "sprintf", "sqrt", "srand", "sub", "substr", "system", "systime",
    "tolower", "toupper"]

/-- The usual function of a name. -/
def usual? (s : List Char) : Option String := usualFunctions.find? fun f => f.toList == s

/-- A word with a meaning of its own. -/
def isKeyword (s : List Char) : Bool := keywords.any fun k => k.toList == s

/-- An expression that can be given a value. -/
def Expr.isTarget : Expr → Bool
  | .variable _ | .field _ | .item _ _ => true
  | _ => false

/-- The operator that an assignment applies first. -/
def assigning? (t : Token) : Option (Option Operator) :=
  let table : List (String × Option Operator) :=
    [("=", none), ("+=", some .add), ("-=", some .subtract), ("*=", some .multiply),
      ("/=", some .divide), ("%=", some .remainder), ("^=", some .power)]
  (table.find? fun e => t.is e.1).map Prod.snd

/-- The comparison that a token makes. -/
def comparison? (place : Place) (t : Token) : Option Operator :=
  let table : List (String × Operator) :=
    [("<", .less), ("<=", .lessOrEqual), ("==", .equal), ("!=", .notEqual), (">=", .greaterOrEqual)]
  if t.is ">" then (if place.greater then some .greater else none)
  else (table.find? fun e => t.is e.1).map Prod.snd

/-- An operator on sums, or on products. -/
def arithmetic? (products : Bool) (t : Token) : Option Operator :=
  let table : List (String × Operator) :=
    if products then [("*", .multiply), ("/", .divide), ("%", .remainder)]
    else [("+", .add), ("-", .subtract)]
  (table.find? fun e => t.is e.1).map Prod.snd

/-- A token that begins an operand, so that a text can be joined to it. -/
def startsOperand (t : Token) : Bool :=
  match t with
  | .number _ | .text _ | .regex _ | .called _ => true
  | .word w => !isKeyword w
  | .operator s => s == "$" || s == "(" || s == "++" || s == "--" || s == "!"
  | _ => false

mutual

/-- An expression. -/
def readExpr : Nat → Place → Reading Expr
  | 0, _ => fail
  | fuel + 1, place => do
    let e ← readChoice fuel place
    match assigning? (← peek) with
    | some op =>
      if e.isTarget then
        skip
        skipLines fuel
        pure (.assign e op (← readExpr fuel place))
      else fail
    | none => pure e

/-- A choice between two, or something that binds more tightly. -/
def readChoice : Nat → Place → Reading Expr
  | 0, _ => fail
  | fuel + 1, place => do
    let e ← readEither fuel place
    if ← skipIf "?" then
      skipLines fuel
      let yes ← readExpr fuel place
      skipLines fuel
      expect ":"
      skipLines fuel
      let no ← readExpr fuel place
      pure (.choice e yes no)
    else pure e

/-- Conditions of which one has to hold. -/
def readEither : Nat → Place → Reading Expr
  | 0, _ => fail
  | fuel + 1, place => do
    let e ← readBoth fuel place
    if ← skipIf "||" then
      skipLines fuel
      pure (.either e (← readEither fuel place))
    else pure e

/-- Conditions that all have to hold. -/
def readBoth : Nat → Place → Reading Expr
  | 0, _ => fail
  | fuel + 1, place => do
    let e ← readMembership fuel place
    if ← skipIf "&&" then
      skipLines fuel
      pure (.both e (← readBoth fuel place))
    else pure e

/-- A value that may be a key of a table. -/
def readMembership : Nat → Place → Reading Expr
  | 0, _ => fail
  | fuel + 1, place => do
    let e ← readMatching fuel place
    readKeyOf fuel place e

/-- What follows a value that may be a key of a table. -/
def readKeyOf : Nat → Place → Expr → Reading Expr
  | 0, _, _ => fail
  | fuel + 1, place, e => do
    if place.membership && (← peek).is "in" then
      skip
      let table ← name
      let keys := match e with
        | .several es => es
        | e => [e]
      readKeyOf fuel place (.isKey keys table)
    else pure e

/-- A value that may be matched by a regular expression. -/
def readMatching : Nat → Place → Reading Expr
  | 0, _ => fail
  | fuel + 1, place => do
    let e ← readComparison fuel place
    readMatchOf fuel place e

/-- What follows a value that may be matched by regular expressions. -/
def readMatchOf : Nat → Place → Expr → Reading Expr
  | 0, _, _ => fail
  | fuel + 1, place, e => do
    let t ← peek
    if t.is "~" || t.is "!~" then
      skip
      let pattern ← readComparison fuel place
      readMatchOf fuel place (.isMatch (t.is "!~") e pattern)
    else pure e

/-- A comparison. -/
def readComparison : Nat → Place → Reading Expr
  | 0, _ => fail
  | fuel + 1, place => do
    let e ← readPiped fuel place
    match comparison? place (← peek) with
    | some op => do
      skip
      let b ← readPiped fuel place
      pure (.operate op e b)
    | none => pure e

/-- Texts side by side, of which lines may be read as from a command. -/
def readPiped : Nat → Place → Reading Expr
  | 0, _ => fail
  | fuel + 1, place => do
    let e ← readJoined fuel place
    readLineOf fuel place e

/-- What follows a command of which lines may be read. -/
def readLineOf : Nat → Place → Expr → Reading Expr
  | 0, _, _ => fail
  | fuel + 1, place, e => do
    if (← peek).is "|" && (← second).is "getline" then
      skip
      skip
      let target ← readTarget? fuel
      readLineOf fuel place (.readLine .command (some e) target)
    else pure e

/-- Values side by side, which make one text. -/
def readJoined : Nat → Place → Reading Expr
  | 0, _ => fail
  | fuel + 1, place => do
    let e ← readArithmetic fuel false
    readMoreJoined fuel place e

/-- What follows a value that others may stand beside. -/
def readMoreJoined : Nat → Place → Expr → Reading Expr
  | 0, _, _ => fail
  | fuel + 1, place, e => do
    if startsOperand (← peek) then
      let b ← readArithmetic fuel false
      readMoreJoined fuel place (.operate .join e b)
    else pure e

/-- A sum, or a product. -/
def readArithmetic : Nat → (products : Bool) → Reading Expr
  | 0, _ => fail
  | fuel + 1, products => do
    let e ← if products then readSigned fuel else readArithmetic fuel true
    readMoreArithmetic fuel products e

/-- What follows a part of a sum, or of a product. -/
def readMoreArithmetic : Nat → (products : Bool) → Expr → Reading Expr
  | 0, _, _ => fail
  | fuel + 1, products, e => do
    match arithmetic? products (← peek) with
    | some op => do
      skip
      let b ← if products then readSigned fuel else readArithmetic fuel true
      readMoreArithmetic fuel products (.operate op e b)
    | none => pure e

/-- An operand with signs in front of it. -/
def readSigned : Nat → Reading Expr
  | 0 => fail
  | fuel + 1 => do
    if ← skipIf "!" then pure (.not (← readSigned fuel))
    else if ← skipIf "-" then pure (.negate (← readSigned fuel))
    else if ← skipIf "+" then pure (.positive (← readSigned fuel))
    else
      let e ← readCounted fuel
      if ← skipIf "^" then pure (.operate .power e (← readSigned fuel)) else pure e

/-- An operand that may go up or down by one. -/
def readCounted : Nat → Reading Expr
  | 0 => fail
  | fuel + 1 => do
    let t ← peek
    if t.is "++" || t.is "--" then
      skip
      let e ← readOperand fuel
      if e.isTarget then pure (.count e (t.is "++") true) else fail
    else
      let e ← readOperand fuel
      let t ← peek
      if e.isTarget && (t.is "++" || t.is "--") then
        skip
        pure (.count e (t.is "++") false)
      else pure e

/-- An operand. -/
def readOperand : Nat → Reading Expr
  | 0 => fail
  | fuel + 1 => do
    match ← peek with
    | .number x => do
      skip
      pure (.number x)
    | .text s => do
      skip
      pure (.text s)
    | .regex r => do
      skip
      pure (.regex r)
    | .operator "$" => do
      skip
      let t ← peek
      if t.is "++" || t.is "--" then
        skip
        pure (.field (.count (← readOperand fuel) (t.is "++") true))
      else if t.is "-" then
        skip
        pure (.field (.negate (← readOperand fuel)))
      else pure (.field (← readOperand fuel))
    | .operator "(" => do
      skip
      let es ← readExprs fuel
      expect ")"
      match es with
      | [e] => pure e
      | [] => fail
      | es => pure (.several es)
    | .called s =>
      match usual? s with
      | some f => do
        skip
        readUsual fuel f
      | none => do
        if isKeyword s then fail
        modify fun p => { p with calls := (s, (p.rest.head?.map Prod.snd).getD 1) :: p.calls }
        skip
        expect "("
        skipLines fuel
        if ← skipIf ")" then pure (.call s [])
        else
          let es ← readExprs fuel
          expect ")"
          pure (.call s es)
    | .word s =>
      match usual? s with
      | some f => do
        skip
        if (← peek).is "(" then readUsual fuel f
        else if f == "length" then pure (.usual f []) else fail
      | none => do
        if s = "getline".toList then
          skip
          let target ← readTarget? fuel
          if ← skipIf "<" then
            pure (.readLine .file (some (← readCounted fuel)) target)
          else pure (.readLine .records none target)
        else if isKeyword s then fail
        else
          skip
          if ← skipIf "[" then
            let keys ← readExprs fuel
            expect "]"
            pure (.item s keys)
          else pure (.variable s)
    | _ => fail

/-- What can be given a value, if such a thing comes next. -/
def readTarget? : Nat → Reading (Option Expr)
  | 0 => fail
  | fuel + 1 => do
    match ← peek with
    | .operator "$" => do pure (some (← readOperand fuel))
    | .word s =>
      if isKeyword s || (usual? s).isSome then pure none else do pure (some (← readOperand fuel))
    | _ => pure none

/-- The arguments of a usual function, whose name has been read. -/
def readUsual : Nat → String → Reading Expr
  | 0, _ => fail
  | fuel + 1, f => do
    expect "("
    skipLines fuel
    if ← skipIf ")" then
      if ["length", "rand", "srand", "fflush", "systime"].contains f then pure (.usual f []) else fail
    else
      let es ← readExprs fuel
      expect ")"
      pure (.usual f es)

/-- Expressions with commas between them. -/
def readExprs : Nat → Reading (List Expr)
  | 0 => fail
  | fuel + 1 => do
    skipLines fuel
    let e ← readExpr fuel ⟨true, true⟩
    skipLines fuel
    if ← skipIf "," then pure (e :: (← readExprs fuel)) else pure [e]

end

/-- The values that are printed, which commas separate. -/
def readValues : Nat → Reading (List Expr)
  | 0 => fail
  | fuel + 1 => do
    let e ← readExpr fuel ⟨false, true⟩
    if ← skipIf "," then
      skipLines fuel
      pure (e :: (← readValues fuel))
    else pure [e]

/-- A token that ends a statement. -/
def endsStatement (t : Token) : Bool :=
  match t with
  | .lineEnd | .programEnd => true
  | t => t.is ";" || t.is "\x7d"

/-- The end of a statement, which a brace may be in place of. -/
def readEnd (fuel : Nat) : Reading Unit := do
  let t ← peek
  match t with
  | .lineEnd => skip
  | .programEnd => pure ()
  | t => if t.is ";" then skip else if t.is "\x7d" then pure () else fail
  if (← peek) matches .lineEnd then skipLines fuel

/-- What is printed, and where it goes. -/
def readPrinted (fuel : Nat) : Reading (List Expr × Option (Direction × Expr)) := do
  let t ← peek
  let goes (t : Token) : Bool := t.is ">" || t.is ">>" || t.is "|"
  let values ← if endsStatement t || goes t then pure [] else readValues fuel
  let values := match values with
    | [.several es] => es
    | es => es
  let direction? ←
    if ← skipIf ">" then pure (some Direction.overwrite)
    else if ← skipIf ">>" then pure (some Direction.append)
    else if ← skipIf "|" then pure (some Direction.command)
    else pure none
  match direction? with
  | some d => do pure (values, some (d, ← readChoice fuel ⟨false, true⟩))
  | none => pure (values, none)

/-- A statement that stands on its own, up to its end. -/
def readSimple (fuel : Nat) : Reading Statement := do
  let t ← peek
  match t with
  | .word s | .called s =>
    match String.ofList s with
    | "print" => do
      skip
      let (values, sink) ← readPrinted fuel
      pure (.print values sink)
    | "printf" => do
      skip
      let (values, sink) ← readPrinted fuel
      if values.isEmpty then fail
      pure (.printFormatted values sink)
    | "delete" => do
      skip
      let table ← name
      if ← skipIf "[" then
        let keys ← readExprs fuel
        expect "]"
        pure (.delete table (some keys))
      else pure (.delete table none)
    | _ => do pure (.expr (← readExpr fuel ⟨true, true⟩))
  | _ => do pure (.expr (← readExpr fuel ⟨true, true⟩))

/-- A statement that is only one word can stand where it does. -/
def checkPlace (allowed : Bool) (message : String) : Reading Unit := do
  unless allowed do throw (.misplaced (← line) message)

/-- The value that a statement may have. -/
def readValue? (fuel : Nat) : Reading (Option Expr) := do
  if endsStatement (← peek) then pure none else do pure (some (← readExpr fuel ⟨true, true⟩))

/-- Reads something inside one more loop. -/
def insideLoop {α : Type} (r : Reading α) : Reading α := do
  modify fun p => { p with loops := p.loops + 1 }
  let a ← r
  modify fun p => { p with loops := p.loops - 1 }
  pure a

mutual

/-- A statement with its end. -/
def readStatement : Nat → Reading Statement
  | 0 => fail
  | fuel + 1 => do
    let t ← peek
    if t.is "\x7b" then
      skip
      let s ← readStatements fuel
      expect "\x7d"
      skipEnds fuel
      pure s
    else if t.is ";" then
      skip
      skipLines fuel
      pure .nothing
    else
      match t with
      | .word s | .called s =>
        match String.ofList s with
        | "if" => do
          skip
          readIf fuel
        | "while" => do
          skip
          expect "("
          let test ← readExpr fuel ⟨true, true⟩
          expect ")"
          skipLines fuel
          let body ← insideLoop (readStatement fuel)
          pure (.loop false (some test) .nothing body)
        | "do" => do
          skip
          skipLines fuel
          let body ← insideLoop (readStatement fuel)
          skipEnds fuel
          expect "while"
          expect "("
          let test ← readExpr fuel ⟨true, true⟩
          expect ")"
          readEnd fuel
          pure (.loop true (some test) .nothing body)
        | "for" => do
          skip
          expect "("
          readFor fuel
        | "break" => do
          checkPlace (0 < (← get).loops) "break statement outside of loop"
          skip
          readEnd fuel
          pure .leave
        | "continue" => do
          checkPlace (0 < (← get).loops) "continue statement outside of loop"
          skip
          readEnd fuel
          pure .again
        | "next" => do
          checkPlace (← get).hasRecord "improper use of next"
          skip
          readEnd fuel
          pure .next
        | "exit" => do
          skip
          let value ← readValue? fuel
          readEnd fuel
          pure (.exit value)
        | "return" => do
          checkPlace (← get).inFunction "return outside function body"
          skip
          let value ← readValue? fuel
          readEnd fuel
          pure (.giveBack value)
        | _ => do
          let s ← readSimple fuel
          readEnd fuel
          pure s
      | _ => do
        let s ← readSimple fuel
        readEnd fuel
        pure s

/-- Statements up to a brace. -/
def readStatements : Nat → Reading Statement
  | 0 => fail
  | fuel + 1 => do
    skipEnds fuel
    if (← peek).is "\x7d" then pure .nothing
    else
      let s ← readStatement fuel
      pure (.sequence s (← readStatements fuel))

/-- The rest of a choice. -/
def readIf : Nat → Reading Statement
  | 0 => fail
  | fuel + 1 => do
    expect "("
    let test ← readExpr fuel ⟨true, true⟩
    expect ")"
    skipLines fuel
    let yes ← readStatement fuel
    skipEnds fuel
    if ← skipIf "else" then
      skipLines fuel
      pure (.choice test yes (← readStatement fuel))
    else pure (.choice test yes .nothing)

/-- The rest of a loop with a head, behind its parenthesis. -/
def readFor : Nat → Reading Statement
  | 0 => fail
  | fuel + 1 => do
    let tokens := (← get).rest.map Prod.fst
    match tokens with
    | .word v :: t :: .word table :: u :: _ =>
      if t.is "in" && u.is ")" then
        skip
        skip
        skip
        skip
        skipLines fuel
        return .forEach v table (← insideLoop (readStatement fuel))
    | _ => pure ()
    let start ← if (← peek).is ";" then pure .nothing else readSimple fuel
    expect ";"
    skipLines fuel
    let test ← if (← peek).is ";" then pure none
      else do pure (some (← readExpr fuel ⟨true, true⟩))
    expect ";"
    skipLines fuel
    let after ← if (← peek).is ")" then pure .nothing else readSimple fuel
    expect ")"
    skipLines fuel
    let body ← insideLoop (readStatement fuel)
    pure (.sequence start (.loop false test after body))

end

/-- The action of a rule, between braces. -/
def readAction (fuel : Nat) : Reading Statement := do
  expect "\x7b"
  let s ← readStatements fuel
  expect "\x7d"
  pure s

/-- The names of the parameters of a function, behind the parenthesis. -/
def readParameters : Nat → (done : List (List Char)) → Reading (List (List Char))
  | 0, _ => fail
  | fuel + 1, done => do
    if ← skipIf ")" then pure done.reverse
    else
      let n ← name
      if done.contains n then
        throw (.misplaced (← line) (String.ofList n ++ " is duplicated in argument list"))
      let _ ← skipIf ","
      skipLines fuel
      readParameters fuel (n :: done)

/-- A function, behind its first word. -/
def readFunction (fuel : Nat) : Reading Function := do
  let n ← match ← peek with
    | .called s | .word s => pure s
    | _ => fail
  skip
  expect "("
  let parameters ← readParameters fuel []
  skipLines fuel
  modify fun p => { p with inFunction := true, hasRecord := true }
  let body ← readAction fuel
  modify fun p => { p with inFunction := false }
  pure ⟨n, parameters, body⟩

/-- A rule. -/
def readRule (fuel : Nat) : Reading Rule := do
  let t ← peek
  modify fun p => { p with hasRecord := !t.is "BEGIN" && !t.is "END" }
  if t.is "BEGIN" || t.is "END" then
    skip
    pure ⟨if t.is "BEGIN" then .start else .finish, ← readAction fuel⟩
  else if t.is "\x7b" then pure ⟨.always, ← readAction fuel⟩
  else
    let e ← readExpr fuel ⟨true, true⟩
    let pattern ← if ← skipIf "," then do
        skipLines fuel
        pure (.range e (← readExpr fuel ⟨true, true⟩))
      else pure (.test e)
    if (← peek).is "\x7b" then pure ⟨pattern, ← readAction fuel⟩
    else
      unless endsStatement (← peek) do fail
      pure ⟨pattern, .print [] none⟩

/-- Rules and functions up to the end of the program. -/
def readRules : Nat → Program → Reading Program
  | 0, _ => fail
  | fuel + 1, p => do
    skipEnds fuel
    let t ← peek
    match t with
    | .programEnd => pure ⟨p.rules.reverse, p.functions.reverse⟩
    | t =>
      if t.is "function" || t.is "func" then
        skip
        let f ← readFunction fuel
        readRules fuel { p with functions := f :: p.functions }
      else
        let r ← readRule fuel
        readRules fuel { p with rules := r :: p.rules }

/-- A program. -/
def Program.read (s : List Char) : Except Fault Program := do
  let ts ← tokens s
  let fuel := 32 * ts.length + 64
  let (p, progress) ← (readRules fuel ⟨[], []⟩).run ⟨ts, 0, 0, 0, false, false, []⟩
  let isKnown (name : List Char) : Bool := p.functions.any fun f => f.name == name
  match progress.calls.reverse.find? fun c => !isKnown c.1 with
  | some (name, _) => .error (.noFunction ((ts.getLast?.map Prod.snd).getD 1) name)
  | none => pure p

end Records
end Shell
end Autograder

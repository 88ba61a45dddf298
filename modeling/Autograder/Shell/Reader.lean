/-
# Reading a script

The words of a script and the commands that they make. Commands can stand in words and words in
commands, so both are read together. A script is read one line of commands at a time: what is wrong
with a later line does not keep an earlier one from being run.
-/

import Autograder.Shell.Script

namespace Autograder
namespace Shell

open Reading

/-- What ends a word, or a text inside a word. -/
inductive Ending where
  | word
  | quote
  | brace
  /-- Two closing parentheses, where some parentheses are open. -/
  | calculation (depth : Nat)
  /-- Nothing but the end of the text. -/
  | body
  deriving DecidableEq

/-- Parts in reverse with one more character. -/
def addChar (c : Char) (quoted : Bool) : List Part → List Part
  | .text s q :: ps =>
    if q == quoted then .text (s ++ [c]) q :: ps else .text [c] quoted :: .text s q :: ps
  | ps => .text [c] quoted :: ps

/-- A character that a backslash quotes where all is quoted. -/
def isEscapable (ending : Ending) (c : Char) : Bool :=
  c == '$' || c == '\\' || c == backquote || (c == '"' && ending != .body) ||
    (c == '\x7d' && ending == .brace)

/-- A word that starts with a tilde starts with the home directory. -/
def withHome : Word → Word
  | .text ['~'] false :: [] => [.home]
  | .text ('~' :: '/' :: s) false :: ps => .home :: .text ('/' :: s) false :: ps
  | w => w

/-- The name and the value of an assignment. -/
def assignment? : Word → Option (List Char × Word)
  | .text s false :: ps =>
    let name := s.takeWhile isNameChar
    match s.drop name.length with
    | '=' :: value =>
      if name.head?.any startsName then
        some (name, withHome (if value.isEmpty then ps else .text value false :: ps))
      else none
    | _ => none
  | _ => none

/-- A simple command in the making: what has been read of it stands in reverse. -/
structure Simple where
  line : Nat
  assignments : List (List Char × Word)
  words : List Word
  redirects : List Redirect

/-- The command. -/
def Simple.command (s : Simple) : Command :=
  .simple s.line s.assignments.reverse s.words.reverse s.redirects.reverse

/-- The name of a function, if a simple command is the name and nothing else. -/
def Simple.functionName? (s : Simple) : Option Word :=
  match s.words, s.assignments, s.redirects with
  | [w], [], [] => some w
  | _, _, _ => none

/-- The redirection at the next characters, of the given stream or the usual one. -/
def readRedirection (stream : Option Nat) : Reading Token := do
  let isInput ← skipIf '<'
  let onto (usual : Nat) (kind : RedirectKind) : Token := .redirect (stream.getD usual) kind
  if isInput then
    if ← skipIf '<' then
      let tabs ← skipIf '-'
      pure (.here (stream.getD 0) tabs)
    else if ← skipIf '&' then pure (onto 0 .duplicate)
    else if ← skipIf '>' then pure (onto 0 .inputAndOutput)
    else pure (onto 0 .input)
  else
    skip
    if ← skipIf '>' then pure (onto 1 .append)
    else if ← skipIf '&' then pure (onto 1 .duplicate)
    else if ← skipIf '|' then pure (onto 1 .overwrite)
    else pure (onto 1 .output)

/-- The operator that starts with a character, which is passed over; the same again makes another
operator of some. -/
def readOperator (c : Char) : Reading Token := do
  skip
  let twice ← if c = '&' || c = '|' || c = ';' then skipIf c else pure false
  pure (.operator (String.ofList (if twice then [c, c] else [c])))

/-- Passes over blanks and comments in front of a token. -/
def skipBlanks : Nat → Reading Unit
  | 0 => pure ()
  | fuel + 1 => do
    match ← head? with
    | some c =>
      if isBlank c then
        skip
        skipBlanks fuel
      else if c = '#' then
        let _ ← takeWhile (· != '\n')
    | none => pure ()

/-- The characters of a name or a number at the next characters; a number behind a dollar sign
without braces has one digit. -/
def readName (braced : Bool) : Reading (List Char) := do
  match ← head? with
  | some c =>
    if startsName c then takeWhile isNameChar
    else if c.isDigit then
      if braced then takeWhile Char.isDigit
      else
        skip
        pure [c]
    else pure []
  | none => pure []

mutual

/-- Parts of a word up to its ending, which is passed over unless it belongs to what follows. The
parts of `done` come before, in reverse. -/
def readParts : Nat → (quoted : Bool) → Ending → (done : List Part) → Reading Word
  | 0, _, _, _ => fail .tooDeep
  | fuel + 1, quoted, ending, done => do
    match ← head? with
    | none =>
      match ending with
      | .word | .body => pure done.reverse
      | .quote => fail .openQuote
      | .brace => fail (if quoted then .openQuote else .openBrace)
      | .calculation _ => fail .openCalculation
    | some '\\' => do
      skip
      match ← head? with
      | none => readParts fuel quoted ending (addChar '\\' quoted done)
      | some c => do
        skip
        if quoted && !isEscapable ending c then
          readParts fuel quoted ending (addChar c true (addChar '\\' true done))
        else readParts fuel quoted ending (addChar c true done)
    | some '$' => do
      skip
      let p ← readDollar fuel quoted
      readParts fuel quoted ending (p :: done)
    | some '"' =>
      match ending with
      | .quote => do
        skip
        pure done.reverse
      | .calculation _ | .body => do
        skip
        readParts fuel quoted ending (addChar '"' true done)
      | _ => do
        skip
        let inside ← readParts fuel true .quote []
        readParts fuel quoted ending (inside.reverse ++ .text [] true :: done)
    | some '\'' => do
      skip
      if quoted then readParts fuel quoted ending (addChar '\'' true done)
      else do
        let inside ← readVerbatim fuel []
        readParts fuel quoted ending (.text inside true :: done)
    | some '\x7d' => do
      if ending = .brace then do
        skip
        pure done.reverse
      else do
        skip
        readParts fuel quoted ending (addChar '\x7d' quoted done)
    | some c =>
      if c = backquote then do
        skip
        let p ← readBackquoted fuel quoted
        readParts fuel quoted ending (p :: done)
      else if ending = .word && endsWord c then pure done.reverse
      else
        match ending, c with
        | .calculation depth, '(' => do
          skip
          readParts fuel quoted (.calculation (depth + 1)) (addChar c quoted done)
        | .calculation 0, ')' => do
          skip
          if ← skipIf ')' then pure done.reverse
          else readParts fuel quoted ending (addChar c quoted done)
        | .calculation (depth + 1), ')' => do
          skip
          readParts fuel quoted (.calculation depth) (addChar c quoted done)
        | _, _ => do
          skip
          readParts fuel quoted ending (addChar c quoted done)

/-- The characters up to a single quote, which is passed over. -/
def readVerbatim : Nat → List Char → Reading (List Char)
  | 0, _ => fail .tooDeep
  | fuel + 1, done => do
    match (← get).rest with
    | [] => fail .openQuote
    | c :: _ => do
      skip
      if c = '\'' then pure done.reverse else readVerbatim fuel (c :: done)

/-- What a dollar sign begins. It may also stand for itself. -/
def readDollar : Nat → (quoted : Bool) → Reading Part
  | 0, _ => fail .tooDeep
  | fuel + 1, quoted => do
    match ← head? with
    | some '(' => do
      skip
      if ← skipIf '(' then
        let calculation ← readParts fuel true (.calculation 0) []
        pure (.number calculation quoted)
      else
        let c ← readList fuel true
        expectOperator fuel ")"
        pure (.output c quoted)
    | some '\x7b' => do
      skip
      readBraced fuel quoted
    | some c => do
      let name ← readName false
      if !name.isEmpty then pure (.parameter name .value quoted)
      else if isSpecialParameter c then do
        skip
        pure (.parameter [c] .value quoted)
      else pure (.text ['$'] quoted)
    | none => pure (.text ['$'] quoted)

/-- A parameter between braces, behind the first of them. -/
def readBraced : Nat → (quoted : Bool) → Reading Part
  | 0, _ => fail .tooDeep
  | fuel + 1, quoted => do
    let name ← readName true
    if !name.isEmpty then readUse fuel name quoted
    else
      match ← head? with
      | some '#' => do
        skip
        let name ← readName true
        let second ← head?
        let special := second.filter isSpecialParameter
        if !name.isEmpty then
          if ← skipIf '\x7d' then pure (.parameter name .length quoted)
          else do
            let _ ← readParts fuel quoted .brace []
            pure (.parameter name .unknown quoted)
        else if special.isSome && (← isSecond '\x7d') then do
          skip
          skip
          pure (.parameter special.toList .length quoted)
        else readUse fuel ['#'] quoted
      | some c => do
        if isSpecialParameter c then do
          skip
          readUse fuel [c] quoted
        else do
          let _ ← readParts fuel quoted .brace []
          pure (.parameter [c] .unknown quoted)
      | none => fail (if quoted then .openQuote else .openBrace)

/-- What is done with a parameter whose name has been read between braces. -/
def readUse : Nat → (name : List Char) → (quoted : Bool) → Reading Part
  | 0, _, _ => fail .tooDeep
  | fuel + 1, name, quoted => do
    let pattern (atEnd longest : Bool) : Reading Part := do
      let w ← readParts fuel false .brace []
      pure (.parameter name (.without w atEnd longest) quoted)
    let word (use : Word → ParameterUse) : Reading Part := do
      let w ← readParts fuel quoted .brace []
      pure (.parameter name (use (if quoted then w else withHome w)) quoted)
    let instead (orEmpty : Bool) : Reading Part := do
      if ← skipIf '-' then word fun w => .orElse w orEmpty false
      else if ← skipIf '=' then word fun w => .orElse w orEmpty true
      else if ← skipIf '?' then word fun w => .orFail w orEmpty
      else if ← skipIf '+' then word fun w => .ifThere w orEmpty
      else word fun _ => .unknown
    if ← skipIf '\x7d' then pure (.parameter name .value quoted)
    else if ← skipIf '%' then pattern true (← skipIf '%')
    else if ← skipIf '#' then pattern false (← skipIf '#')
    else if ← skipIf ':' then instead true
    else instead false

/-- A script between backquotes, behind the first of them. -/
def readBackquoted : Nat → (quoted : Bool) → Reading Part
  | 0, _ => fail .tooDeep
  | fuel + 1, quoted => do
    let s ← get
    match takeBackquoted quoted [] s.rest with
    | none => fail .openBackquote
    | some (script, rest) => do
      let lines := s.rest.count '\n' - rest.count '\n'
      set { s with rest := rest, line := s.line + lines }
      let c ← within (.ofText s.line script) (readList fuel true)
      pure (.output c quoted)

/-- The next token. -/
def next : Nat → Reading Token
  | 0 => fail .tooDeep
  | fuel + 1 => do
    let s ← get
    match s.ahead with
    | some t => do
      set { s with ahead := none }
      pure t
    | none => do
      skipBlanks (s.rest.length + 1)
      match ← head? with
      | none => pure .scriptEnd
      | some c => do
        let redirects := (← isSecond '<') || (← isSecond '>')
        if c = '\n' then do
          skip
          pure .lineEnd
        else if c.isDigit && redirects then do
          skip
          readRedirection (some (c.toNat - '0'.toNat))
        else if c = '<' || c = '>' then readRedirection none
        else if endsWord c then readOperator c
        else do
          let w ← readParts fuel false .word []
          pure (.word (withHome w))

/-- The next token that is no line feed. -/
def nextBelow : Nat → Reading Token
  | 0 => fail .tooDeep
  | fuel + 1 => do
    match ← next fuel with
    | .lineEnd => nextBelow fuel
    | t => pure t

/-- Passes over an operator that has to come next. -/
def expectOperator : Nat → (op : String) → Reading Unit
  | 0, _ => fail .tooDeep
  | fuel + 1, op => do
    let t ← next fuel
    unless t.isOperator op do fail (.unexpected t (some op))

/-- Passes over a keyword that has to come next. -/
def expectKeyword : Nat → (name : String) → Reading Unit
  | 0, _ => fail .tooDeep
  | fuel + 1, name => do
    let t ← next fuel
    unless t.isKeyword name do fail (.unexpected t (some name))

/-- The redirection that a token begins, if it begins one. -/
def readRedirect? : Nat → Token → Reading (Option Redirect)
  | 0, _ => fail .tooDeep
  | fuel + 1, t =>
    match t with
    | .redirect stream kind => do
      match ← next fuel with
      | .word w => pure (some (.to stream kind w))
      | t => fail (.unexpected t none)
    | .here stream tabs => do
      match ← next fuel with
      | .word w => do
        let line ← line
        let body ← takeBelow (lettersOf w) tabs
        if isUnquoted w then do
          let inside ← within (.ofText (line + 1) body) (readParts fuel true .body [])
          pure (some (.to stream .here inside))
        else pure (some (.to stream .here [.text body true]))
      | t => fail (.unexpected t none)
    | _ => pure none

/-- The command with the redirections behind it, if there are any. -/
def readRedirects : Nat → (line : Nat) → Command → (done : List Redirect) → Reading Command
  | 0, _, _, _ => fail .tooDeep
  | fuel + 1, line, c, done => do
    let t ← next fuel
    match ← readRedirect? fuel t with
    | some r => readRedirects fuel line c (r :: done)
    | none => do
      unread t
      pure (if done.isEmpty then c else .redirected line c done.reverse)

/-- A list of commands that stands in another command. Unless it may be empty, it has a command. -/
def readList : Nat → (mayBeEmpty : Bool) → Reading Command
  | 0, _ => fail .tooDeep
  | fuel + 1, mayBeEmpty => do
    let t ← nextBelow fuel
    match t with
    | .scriptEnd => do
      unread t
      pure .nothing
    | _ => do
      unread t
      if mayBeEmpty && t.closesList then pure .nothing
      else do
        let c ← readAndOr fuel
        match ← next fuel with
        | .lineEnd => do
          let rest ← readList fuel true
          pure (.sequence c rest)
        | .operator s => do
          if s = ";" || s = "&" then do
            let rest ← readList fuel true
            pure (.sequence (if s = "&" then .background c else c) rest)
          else do
            unread (.operator s)
            pure c
        | t => do
          unread t
          pure c

/-- Commands joined by `&&` and `||`. -/
def readAndOr : Nat → Reading Command
  | 0 => fail .tooDeep
  | fuel + 1 => do
    let t ← nextBelow fuel
    unread t
    let c ← readPipeline fuel
    readAndOrRest fuel c

/-- More commands joined to one by `&&` and `||`, which bind alike and to the left. -/
def readAndOrRest : Nat → Command → Reading Command
  | 0, _ => fail .tooDeep
  | fuel + 1, c => do
    let t ← next fuel
    if t.isOperator "&&" || t.isOperator "||" then do
      unread (← nextBelow fuel)
      let d ← readPipeline fuel
      readAndOrRest fuel (if t.isOperator "&&" then .andThen c d else .orElse c d)
    else do
      unread t
      pure c

/-- Commands joined by pipes, possibly negated. -/
def readPipeline : Nat → Reading Command
  | 0 => fail .tooDeep
  | fuel + 1 => do
    let t ← next fuel
    if t.isKeyword "!" then do
      let c ← readCommand fuel
      let c ← readPipes fuel c
      pure (.negate c)
    else do
      unread t
      let c ← readCommand fuel
      readPipes fuel c

/-- More commands joined to one by pipes. -/
def readPipes : Nat → Command → Reading Command
  | 0, _ => fail .tooDeep
  | fuel + 1, c => do
    let t ← next fuel
    if t.isOperator "|" then do
      unread (← nextBelow fuel)
      let d ← readCommand fuel
      let d ← readPipes fuel d
      pure (.pipe c d)
    else do
      unread t
      pure c

/-- A single command. -/
def readCommand : Nat → Reading Command
  | 0 => fail .tooDeep
  | fuel + 1 => do
    let line ← line
    let t ← next fuel
    if t.isOperator "(" then do
      let c ← readList fuel false
      expectOperator fuel ")"
      readRedirects fuel line (.apart c) []
    else
      match t.keyword? with
      | some "\x7b" => do
        let c ← readList fuel false
        expectKeyword fuel "\x7d"
        readRedirects fuel line c []
      | some "if" => do
        let c ← readChoice fuel
        readRedirects fuel line c []
      | some "while" => do
        let c ← readLoop fuel false
        readRedirects fuel line c []
      | some "until" => do
        let c ← readLoop fuel true
        readRedirects fuel line c []
      | some "for" => do
        let c ← readFor fuel
        readRedirects fuel line c []
      | some "case" => do
        match ← next fuel with
        | .word subject => do
          let t ← nextBelow fuel
          unless t.isKeyword "in" do fail (.unexpected t (some "in"))
          let arms ← readArms fuel []
          readRedirects fuel line (.select subject arms) []
        | t => fail (.unexpected t (some "word"))
      | some _ => fail (.unexpected t none)
      | none =>
        match t, (← get).alias? t with
        | _, some (name, value) => do
          let before := (← get).aliases
          let others := before.filter fun a => a.1 != name
          modify fun s => { s with rest := value ++ s.rest, aliases := others }
          let c ← readCommand fuel
          modify fun s => { s with aliases := before }
          pure c
        | .word _, none | .redirect _ _, none | .here _ _, none => do
          unread t
          readSimple fuel ⟨line, [], [], []⟩
        | t, none => fail (.unexpected t none)

/-- The rest of a simple command. A parenthesis behind its first word makes it a function. -/
def readSimple : Nat → Simple → Reading Command
  | 0, _ => fail .tooDeep
  | fuel + 1, s => do
    let t ← next fuel
    match t, ← readRedirect? fuel t, s.functionName? with
    | _, some r, _ => readSimple fuel { s with redirects := r :: s.redirects }
    | .word w, none, _ =>
      match s.words, assignment? w with
      | [], some a => readSimple fuel { s with assignments := a :: s.assignments }
      | _, _ => readSimple fuel { s with words := w :: s.words }
    | .operator "(", none, some w => do
      match ← next fuel with
      | .word _ => fail .unexpectedWord
      | t => unless t.isOperator ")" do fail (.unexpected t (some ")"))
      match (plainText? w).filter isName with
      | some name => do
        unread (← nextBelow fuel)
        let c ← readCommand fuel
        pure (.define name c)
      | none => fail .badFunctionName
    | t, none, _ => do
      unread t
      pure s.command

/-- The rest of a choice, after its `if` or `elif`. -/
def readChoice : Nat → Reading Command
  | 0 => fail .tooDeep
  | fuel + 1 => do
    let test ← readList fuel false
    expectKeyword fuel "then"
    let yes ← readList fuel false
    let t ← next fuel
    if t.isKeyword "elif" then do
      let no ← readChoice fuel
      pure (.choice test yes no)
    else if t.isKeyword "else" then do
      let no ← readList fuel false
      expectKeyword fuel "fi"
      pure (.choice test yes no)
    else do
      unread t
      expectKeyword fuel "fi"
      pure (.choice test yes .nothing)

/-- The rest of a loop, after its first word. -/
def readLoop : Nat → Bool → Reading Command
  | 0, _ => fail .tooDeep
  | fuel + 1, untilTrue => do
    let test ← readList fuel false
    expectKeyword fuel "do"
    let body ← readList fuel false
    expectKeyword fuel "done"
    pure (.loop untilTrue test body)

/-- The rest of a loop over words, after its `for`. -/
def readFor : Nat → Reading Command
  | 0 => fail .tooDeep
  | fuel + 1 => do
    let name ← match ← next fuel with
      | .word w =>
        match (plainText? w).filter isName with
        | some name => pure name
        | none => fail .badLoopVariable
      | _ => fail .badLoopVariable
    let t ← nextBelow fuel
    let items ←
      if t.isKeyword "in" then do
        let ws ← readItems fuel []
        pure (some ws)
      else do
        unless t.isOperator ";" do unread t
        pure none
    let t ← nextBelow fuel
    unless t.isKeyword "do" do fail (.unexpected t (some "do"))
    let body ← readList fuel false
    expectKeyword fuel "done"
    pure (.forEach name items body)

/-- The words up to a line feed or a semicolon. -/
def readItems : Nat → (done : List Word) → Reading (List Word)
  | 0, _ => fail .tooDeep
  | fuel + 1, done => do
    let t ← next fuel
    match t with
    | .word w => readItems fuel (w :: done)
    | .lineEnd => pure done.reverse
    | t => if t.isOperator ";" then pure done.reverse else fail (.unexpected t none)

/-- The arms of a choice by pattern, up to its `esac`. -/
def readArms : Nat → (done : List (List Word × Command)) →
    Reading (List (List Word × Command))
  | 0, _ => fail .tooDeep
  | fuel + 1, done => do
    let t ← nextBelow fuel
    if t.isKeyword "esac" then pure done.reverse
    else do
      unless t.isOperator "(" do unread t
      let patterns ← readPatterns fuel []
      let body ← readList fuel true
      let t ← nextBelow fuel
      if t.isKeyword "esac" then pure ((patterns, body) :: done).reverse
      else if t.isOperator ";;" then readArms fuel ((patterns, body) :: done)
      else fail (.unexpected t (some ";;"))

/-- The patterns of an arm up to the parenthesis behind them. -/
def readPatterns : Nat → (done : List Word) → Reading (List Word)
  | 0, _ => fail .tooDeep
  | fuel + 1, done => do
    let w ← match ← next fuel with
      | .word w => pure w
      | t => do
        unread t
        pure []
    let t ← next fuel
    if t.isOperator "|" then readPatterns fuel (w :: done)
    else if t.isOperator ")" then pure (w :: done).reverse
    else fail (.unexpected t (some ")"))

end

/-- Commands up to the end of the line. -/
def readLine : Nat → Reading Command
  | 0 => fail .tooDeep
  | fuel + 1 => do
    let t ← next fuel
    match t with
    | .lineEnd | .scriptEnd => pure .nothing
    | t => do
      unread t
      let c ← readAndOr fuel
      let t ← next fuel
      match t with
      | .lineEnd | .scriptEnd => pure c
      | t =>
        if t.isOperator ";" || t.isOperator "&" then do
          let rest ← readLine fuel
          pure (.sequence (if t.isOperator "&" then .background c else c) rest)
        else fail (.unexpected t none)

/-- The commands of the next line of a script, and the script behind them; `none` at its end. What is
nested in the line is bounded by its length and that of the aliases. -/
def Script.readLine? (s : Script) : Except (Fault × Nat) (Option (Command × Script)) :=
  if s.rest.isEmpty then .ok none
  else
    let length := s.aliases.foldl (fun n a => n + a.2.length) s.rest.length
    (readLine (8 * length + 16) s).map some

end Shell
end Autograder

import RemoteSearch.Machine.Script

/-!
# Reading scripts

The tokens of a text become a script line by line: what stands on a line, with all that it opens,
is one script, and a line that cannot be read does not keep those before it from running. A word
means something as a keyword only where a command may begin, and one token tells how to go on.

## Termination

The readers count down from the number of characters of the text, which bounds the nesting of
commands as well as their number.
-/

namespace RemoteSearch.Machine.Script

open Shell (Fragment Token Shortfall)

/-! ## Misreadings -/

/-- Why a text is no script. -/
inductive Fault where
  /-- A token that cannot stand where it does, and the one that should. -/
  | unexpected (found : String) (wanted : Option String)
  | unfinished (s : Shortfall)
  | badLoopVariable
  | badFunctionName
  | tooDeep
  deriving Repr, DecidableEq, Inhabited

/-- What a shell says of it. -/
def Fault.message : Fault → String
  | unexpected found none => s!"{found} unexpected"
  | unexpected found (some wanted) => s!"{found} unexpected (expecting {wanted})"
  | unfinished .quote => "Unterminated quoted string"
  | unfinished .command => "end of file unexpected (expecting \")\")"
  | unfinished .arithmetic => "Missing '))'"
  | unfinished .backquote => "EOF in backquote substitution"
  | unfinished .brace => "Missing '\x7d'"
  | badLoopVariable => "Bad for loop variable"
  | badFunctionName => "Bad function name"
  | tooDeep => "Nesting too deep"

/-- A fault, and the line of the text that has it. -/
structure Misreading where
  line : Nat
  fault : Fault
  deriving Repr, DecidableEq, Inhabited

/-! ## Tokens -/

/-- Words that mean something where a command may begin. -/
def keywords : List String :=
  ["!", "case", "do", "done", "elif", "else", "esac", "fi", "for", "if", "in", "then", "until",
    "while", "\x7b", "\x7d"]

/-- The text of a token that is written without quotes. -/
def bareText? : Token → Option String
  | .word l =>
    (l.mapM fun f : Fragment => match f with | .bare c => some c | _ => none).map String.ofList
  | .operator _ => none

/-- The keyword that a token is. -/
def keyword? (t : Token) : Option String := (bareText? t).filter keywords.contains

/-- Whether a token is an operator. -/
def isOperator (text : String) : Token → Bool
  | .operator l => l == text.toList
  | .word _ => false

/-- Whether an operator redirects. -/
def isRedirection (l : List Char) : Bool :=
  match l.dropWhile Char.isDigit with
  | c :: _ => c == '<' || c == '>'
  | [] => false

/-- How a token is called. -/
def describe (atCommand : Bool) (t : Token) : String :=
  match t with
  | .operator ['\n'] => "newline"
  | .operator l => if isRedirection l then "redirection" else s!"\"{String.ofList l}\""
  | .word _ =>
    match if atCommand then keyword? t else none with
    | some k => s!"\"{k}\""
    | none => "word"

/-- The tokens that are still to be read, with the lines on which they end. -/
structure Cursor where
  tokens : List Token
  lines : List Nat
  lastLine : Nat
  /-- What is missing after the last token. -/
  missing : Option Shortfall
  deriving Repr, DecidableEq, Inhabited

namespace Cursor

/-- The tokens of a text that begins on some line. -/
def ofText (line : Nat) (text : List Char) : Cursor :=
  let s := Shell.scan text
  { tokens := s.tokens
    lines := s.lines.map (· + line - 1)
    lastLine := s.lastLine + line - 1
    missing := s.missing }

/-- The line of the next token. -/
def line (c : Cursor) : Nat := c.lines.headD c.lastLine

/-- After the next token. -/
def advance (c : Cursor) : Cursor := { c with tokens := c.tokens.tail, lines := c.lines.tail }

/-- After the line ends that come next. -/
def skipLines (c : Cursor) : Cursor :=
  let n := (c.tokens.takeWhile (isOperator "\n")).length
  { c with tokens := c.tokens.drop n, lines := c.lines.drop n }

/-- A fault at the next token. -/
def fail {α : Type} (c : Cursor) (f : Fault) : Except Misreading α :=
  .error ⟨if c.tokens.head?.any (isOperator "\n") then c.line + 1 else c.line, f⟩

/-- The next token is not what can stand there. -/
def unexpected {α : Type} (c : Cursor) (atCommand : Bool) (wanted : Option String) :
    Except Misreading α :=
  match c.tokens, c.missing with
  | t :: _, _ => c.fail (.unexpected (describe atCommand t) wanted)
  | [], some s => c.fail (.unfinished s)
  | [], none => c.fail (.unexpected "end of file" wanted)

/-- The keyword that comes next. -/
def keyword? (c : Cursor) : Option String := c.tokens.head?.bind Script.keyword?

/-- Whether an operator comes next. -/
def atOperator (c : Cursor) (text : String) : Bool := c.tokens.head?.any (isOperator text)

/-- Takes a keyword. -/
def takeKeyword (c : Cursor) (k : String) : Except Misreading Cursor :=
  if c.keyword? = some k then .ok c.advance else c.unexpected true (some s!"\"{k}\"")

/-- Takes an operator. -/
def takeOperator (atCommand : Bool) (c : Cursor) (text : String) : Except Misreading Cursor :=
  if c.atOperator text then .ok c.advance else c.unexpected atCommand (some s!"\"{text}\"")

/-- Whether the text goes on in a way that a list cannot. -/
def endsList (c : Cursor) : Bool :=
  match c.tokens with
  | [] => true
  | t :: _ =>
    isOperator ")" t || isOperator ";;" t ||
      (Script.keyword? t).any ["do", "done", "elif", "else", "esac", "fi", "then", "\x7d"].contains

end Cursor

/-! ## Words -/

/-- The redirection that an operator and the word after it make. -/
def redirectionOf (operator : List Char) (word : Word) : Redirection :=
  let digits := operator.takeWhile Char.isDigit
  let named (usual : Nat) : Nat := (digits.head?.map fun c => c.toNat - 48).getD usual
  match operator.dropWhile Char.isDigit with
  | ['<'] => ⟨named 0, .read word⟩
  | ['<', '>'] => ⟨named 0, .readWrite word⟩
  | ['<', '&'] => ⟨named 0, .same word⟩
  | ['<', '<'] => ⟨named 0, .document word⟩
  | ['<', '<', '-'] => ⟨named 0, .document word⟩
  | ['>', '>'] => ⟨named 1, .append word⟩
  | ['>', '|'] => ⟨named 1, .replace word⟩
  | ['>', '&'] => ⟨named 1, .same word⟩
  | _ => ⟨named 1, .write word⟩

/-- Whether a text is the name of a variable. -/
def isName (l : List Char) : Bool := l.head?.any Shell.isNameStart && l.all Shell.isNameChar

/-- The assignment that a word is. -/
def assignment? (w : Word) : Option Assignment :=
  let name := w.takeWhile fun f => f != .bare '='
  match bareText? (.word name), w.drop name.length with
  | some text, _ :: value => if isName text.toList then some ⟨text, value⟩ else none
  | _, _ => none

/-- Names that functions cannot have, since the shell itself means something by them. -/
def specialNames : List String :=
  [".", ":", "break", "continue", "eval", "exec", "exit", "export", "readonly", "return", "set",
    "shift", "times", "trap", "unset"]

/-! ## Commands -/

/-- What has been read of a simple command, latest first. -/
structure Draft where
  line : Nat
  assignments : List Assignment := []
  words : List Word := []
  redirections : List Redirection := []

/-- The simple command. -/
def Draft.script (d : Draft) : Script :=
  .simple d.line d.assignments.reverse d.words.reverse d.redirections.reverse

/-- The name of a function that is being defined, if nothing else has been read. -/
def Draft.functionName? (d : Draft) : Option Word :=
  match d.words, d.assignments, d.redirections with
  | [w], [], [] => some w
  | _, _, _ => none

mutual

/-- Checks the commands that stand in a word. -/
def checkWord (n : Nat) (c : Cursor) (w : Word) : Except Misreading Unit :=
  match n with
  | 0 => c.fail .tooDeep
  | n + 1 =>
    w.forM fun f =>
      match f with
      | .command text _ => do
        let (_, rest) ← readList n false true (.ofText c.line text)
        if rest.tokens.isEmpty then .ok () else rest.unexpected true (some "\")\"")
      | _ => .ok ()

/-- Redirections after a command, the last one first. -/
def readRedirections (n : Nat) (done : List Redirection) (c : Cursor) :
    Except Misreading (List Redirection × Cursor) :=
  match n, c.tokens with
  | 0, _ => c.fail .tooDeep
  | n + 1, .operator op :: r =>
    if isRedirection op then
      match r with
      | .word w :: _ => do
        checkWord n c w
        readRedirections n (redirectionOf op w :: done) c.advance.advance
      | _ => c.advance.unexpected false none
    else .ok (done, c)
  | _, _ => .ok (done, c)

/-- The rest of a simple command. -/
def readSimple (n : Nat) (d : Draft) (c : Cursor) : Except Misreading (Script × Cursor) :=
  match n, c.tokens with
  | 0, _ => c.fail .tooDeep
  | n + 1, .word w :: _ => do
    checkWord n c w
    match if d.words.isEmpty then assignment? w else none with
    | some a => readSimple n { d with assignments := a :: d.assignments } c.advance
    | none => readSimple n { d with words := w :: d.words } c.advance
  | n + 1, .operator op :: _ =>
    if isRedirection op then do
      let (redirections, c) ← readRedirections n d.redirections c
      readSimple n { d with redirections } c
    else
      match if isOperator "(" (.operator op) then d.functionName? else none with
      | some w => do
        let c ← c.advance.takeOperator false ")"
        match bareText? (.word w) with
        | some name =>
          if isName name.toList && !specialNames.contains name then
            let (body, c) ← readCommand n c.skipLines
            .ok (.define name body, c)
          else c.fail .badFunctionName
        | none => c.fail .badFunctionName
      | none => .ok (d.script, c)
  | _, [] => if c.missing.isSome then c.unexpected false none else .ok (d.script, c)

/-- The arms of a choice up to the keyword that ends it. -/
def readArms (n : Nat) (c : Cursor) : Except Misreading (Arms × Cursor) :=
  match n with
  | 0 => c.fail .tooDeep
  | n + 1 =>
    let c := c.skipLines
    if c.keyword? = some "esac" then .ok (.none, c.advance)
    else do
      let c := if c.atOperator "(" then c.advance else c
      let (patterns, c) ← readPatterns n [] c
      let (body, c) ← readList n false true (← c.takeOperator true ")")
      if c.keyword? = some "esac" then .ok (.arm patterns body .none, c.advance)
      else
        let (rest, c) ← readArms n (← c.takeOperator true ";;")
        .ok (.arm patterns body rest, c)

/-- The patterns of an arm. -/
def readPatterns (n : Nat) (done : List Word) (c : Cursor) :
    Except Misreading (List Word × Cursor) :=
  match n, c.tokens with
  | 0, _ => c.fail .tooDeep
  | n + 1, t :: _ => do
    -- any token can stand there, but what is no word matches nothing
    let w : Word :=
      match t with
      | .word w => w
      | .operator _ => [.quoted '\n']
    checkWord n c w
    let c := c.advance
    if c.atOperator "|" then readPatterns n (w :: done) c.advance
    else .ok ((w :: done).reverse, c)
  | _, [] => c.unexpected false (some "\")\"")

/-- The words that a loop goes through, up to the end of its heading. -/
def readWords (n : Nat) (done : List Word) (c : Cursor) : Except Misreading (List Word × Cursor) :=
  match n, c.tokens with
  | 0, _ => c.fail .tooDeep
  | n + 1, .word w :: _ => do
    checkWord n c w
    readWords n (w :: done) c.advance
  | _, t :: _ =>
    if isOperator "\n" t || isOperator ";" t then .ok (done.reverse, c.advance)
    else c.unexpected false none
  | _, [] => c.unexpected false none

/-- The rest of a condition, after the keyword that begins it. -/
def readChoice (n : Nat) (c : Cursor) : Except Misreading (Script × Cursor) :=
  match n with
  | 0 => c.fail .tooDeep
  | n + 1 => do
    let (condition, c) ← readList n false false c
    let (yes, c) ← readList n false false (← c.takeKeyword "then")
    match c.keyword? with
    | some "elif" =>
      let (no, c) ← readChoice n c.advance
      .ok (.choice condition yes no, c)
    | some "else" =>
      let (no, c) ← readList n false false c.advance
      .ok (.choice condition yes no, ← c.takeKeyword "fi")
    | _ => .ok (.choice condition yes .nothing, ← c.takeKeyword "fi")

/-- A command that begins with a keyword or a parenthesis, without the redirections after it. -/
def readCompound (n : Nat) (c : Cursor) : Except Misreading (Script × Cursor) :=
  match n with
  | 0 => c.fail .tooDeep
  | n + 1 =>
    if c.atOperator "(" then do
      let (body, c) ← readList n false false c.advance
      .ok (.apart body, ← c.takeOperator true ")")
    else
      match c.keyword? with
      | some "\x7b" => do
        let (body, c) ← readList n false false c.advance
        .ok (body, ← c.takeKeyword "\x7d")
      | some "if" => readChoice n c.advance
      | some "for" => do
        let c := c.advance
        match c.tokens.head?.bind bareText? with
        | some name =>
          if isName name.toList then
            let afterName := c.advance.skipLines
            let (words, c) ←
              if afterName.keyword? = some "in" then readWords n [] afterName.advance
              else
                let c := c.advance
                .ok ([allArguments], if c.atOperator ";" then c.advance else c)
            let (body, c) ← readList n false false (← c.skipLines.takeKeyword "do")
            .ok (.each name words body, ← c.takeKeyword "done")
          else c.fail .badLoopVariable
        | none => c.fail .badLoopVariable
      | some "case" => do
        let c := c.advance
        match c.tokens with
        | .word w :: _ =>
          checkWord n c w
          let (arms, c) ← readArms n (← c.advance.skipLines.takeKeyword "in")
          .ok (.select w arms, c)
        | _ => c.unexpected false (some "word")
      | some "while" => readLoop n true c.advance
      | some "until" => readLoop n false c.advance
      | _ => c.unexpected true none

/-- The rest of a loop, after the keyword that begins it. -/
def readLoop (n : Nat) (wanted : Bool) (c : Cursor) : Except Misreading (Script × Cursor) :=
  match n with
  | 0 => c.fail .tooDeep
  | n + 1 => do
    let (condition, c) ← readList n false false c
    let (body, c) ← readList n false false (← c.takeKeyword "do")
    .ok (.loop wanted condition body, ← c.takeKeyword "done")

/-- A command. -/
def readCommand (n : Nat) (c : Cursor) : Except Misreading (Script × Cursor) :=
  match n with
  | 0 => c.fail .tooDeep
  | n + 1 =>
    let simple : Bool :=
      match c.tokens with
      | .word w :: _ => (keyword? (.word w)).isNone
      | .operator op :: _ => isRedirection op
      | [] => false
    if simple then readSimple n { line := c.line } c
    else do
      let (body, c) ← readCompound n c
      let (redirections, c) ← readRedirections n [] c
      .ok (if redirections.isEmpty then body else .redirected body redirections.reverse, c)

/-- The commands of a pipeline. -/
def readPipes (n : Nat) (c : Cursor) : Except Misreading (Script × Cursor) :=
  match n with
  | 0 => c.fail .tooDeep
  | n + 1 => do
    let (left, c) ← readCommand n c
    if c.atOperator "|" then
      let (right, c) ← readPipes n c.advance.skipLines
      .ok (.pipe left right, c)
    else .ok (left, c)

/-- Pipelines that run after one another according to their statuses. -/
def readChain (n : Nat) (before : Script) (joint : Joint) (c : Cursor) :
    Except Misreading (Script × Cursor) :=
  match n with
  | 0 => c.fail .tooDeep
  | n + 1 => do
    let negated := c.keyword? = some "!"
    let (s, c) ← readPipes n (if negated then c.advance else c)
    let s := before.after joint (if negated then .negated s else s)
    if c.atOperator "&&" then readChain n s .onSuccess c.advance.skipLines
    else if c.atOperator "||" then readChain n s .onFailure c.advance.skipLines
    else .ok (s, c)

/--
The commands of a list, which may go over several lines unless it is at the top; `mayEnd` tells
whether it may be empty.
-/
def readList (n : Nat) (top mayEnd : Bool) (c : Cursor) : Except Misreading (Script × Cursor) :=
  match n with
  | 0 => c.fail .tooDeep
  | n + 1 => readRest n top mayEnd .nothing c

/-- The rest of a list after some commands. -/
def readRest (n : Nat) (top mayEnd : Bool) (before : Script) (c : Cursor) :
    Except Misreading (Script × Cursor) :=
  match n with
  | 0 => c.fail .tooDeep
  | n + 1 =>
    let c := if top then c else c.skipLines
    if c.tokens.isEmpty && c.missing.isNone then .ok (before, c)
    else if top && c.atOperator "\n" then .ok (before, c.advance)
    else if mayEnd && !top && c.endsList && !c.tokens.isEmpty then .ok (before, c)
    else do
      let (s, c) ← readChain n .nothing .always c
      if c.atOperator "&" then
        readRest n top true (before.after .always (.background s)) c.advance
      else
        let s := before.after .always s
        if c.atOperator ";" then readRest n top true s c.advance
        else if c.atOperator "\n" then
          if top then .ok (s, c.advance) else readRest n top true s c
        else if c.tokens.isEmpty then
          if c.missing.isSome then c.unexpected false none else .ok (s, c)
        else if top then c.unexpected false none
        else .ok (s, c)

end

/-- The scripts of the lines of a text, up to one that cannot be read. -/
def readLines (fuel : Nat) (lines : Nat) (c : Cursor) : List Script × Option Misreading :=
  match lines with
  | 0 => ([], none)
  | lines + 1 =>
    if c.tokens.isEmpty && c.missing.isNone then ([], none)
    else
      match readList fuel true true c with
      | .error m => ([], some m)
      | .ok (s, rest) =>
        let (more, m) := readLines fuel lines rest
        (s :: more, m)

/-- The number that bounds the nesting in a text. -/
def nesting (text : List Char) : Nat := 8 * text.length + 8

/-- The scripts of the lines of a text that begins on some line, up to one that cannot be read. -/
def ofText (line : Nat) (text : List Char) : List Script × Option Misreading :=
  let c := Cursor.ofText line text
  readLines (nesting text) (c.tokens.length + 1) c

end RemoteSearch.Machine.Script

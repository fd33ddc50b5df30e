import RemoteSearch.Machine.FileTools
import RemoteSearch.Shell.Arithmetic

/-!
# Checks

The `test` of a shell: questions about texts, numbers and files, joined by signs. What a sign means
depends on how many words there are and on where it stands.

## Termination

The readers count down from a number that the count of words bounds.
-/

namespace RemoteSearch.Machine.Check

/-- What a word can be besides an operand. -/
inductive Sign where
  /-- A question about the next word. -/
  | unary
  /-- A question about the word before and the next one. -/
  | binary
  | not
  | and
  | or
  | opening
  | closing
  deriving Repr, DecidableEq, Inhabited

/-- Questions about one word. -/
def unarySigns : List String :=
  ["-r", "-w", "-x", "-e", "-f", "-d", "-c", "-b", "-p", "-u", "-g", "-k", "-s", "-t", "-z", "-n",
    "-h", "-O", "-G", "-L", "-S"]

/-- Questions about two words. -/
def binarySigns : List String :=
  ["=", "!=", "<", ">", "-eq", "-ne", "-ge", "-gt", "-le", "-lt", "-nt", "-ot", "-ef"]

/-- The sign that a word can be. -/
def sign? (s : String) : Option Sign :=
  if unarySigns.contains s then some .unary
  else if binarySigns.contains s then some .binary
  else
    match s with
    | "!" => some .not
    | "-a" => some .and
    | "-o" => some .or
    | "(" => some .opening
    | ")" => some .closing
    | _ => none

/-- Whether a sign is taken as an operand, since what it asks about is missing. -/
def isOperand (r : List String) : Bool :=
  match r with
  | [] => true
  | [_] => false
  | s :: _ :: _ => sign? s == some .binary

/-- The sign that the first of some words is. -/
def signAt (l : List String) : Option Sign :=
  match l with
  | [] => none
  | s :: r =>
    match sign? s with
    | some .unary => if isOperand r then none else some .unary
    | some .opening => if r.isEmpty then none else some .opening
    | other => other

/-! ## Questions -/

/-- The number that a word is. -/
def number (s : String) : Except String Int :=
  match s.toList.dropWhile Shell.Arithmetic.isBlank with
  | [] => .error s!"Illegal number: {s}"
  | l =>
    let (negative, r) :=
      match l with
      | '-' :: r => (true, r)
      | '+' :: r => (false, r)
      | r => (false, r)
    let digits := r.takeWhile Char.isDigit
    if !digits.isEmpty && (r.drop digits.length).all Shell.Arithmetic.isBlank then
      let n : Int := Shell.Arithmetic.natOf 10 digits
      .ok (if negative then -n else n)
    else .error s!"Illegal number: {s}"

/-- The answer to a question about a file. -/
def askFile (p : Process) (sign path : String) : Bool :=
  if path == "/dev/null" then ["-e", "-r", "-w", "-c", "-O", "-G"].contains sign
  else if sign == "-h" || sign == "-L" then
    ((p.tree.locate false p.here path).toOption.bind p.tree.entry?).any Entry.isLink
  else
    match p.tree.find p.here path with
    | .error _ => false
    | .ok (_, e) =>
      match sign, e with
      | "-f", .file .. => true
      | "-d", .directory _ => true
      | "-s", e => 0 < Tree.sizeOf e
      | "-x", .file mode _ => (mode.text.drop 0).contains 'x'
      | "-x", _ => true
      | sign, _ => ["-e", "-r", "-w", "-O", "-G"].contains sign

/-- The answer to a question about one word. -/
def askOne (p : Process) (sign word : String) : Except String Bool :=
  match sign with
  | "-z" => .ok word.isEmpty
  | "-n" => .ok (!word.isEmpty)
  | "-t" => (number word).map fun _ => false
  | sign => .ok (askFile p sign word)

/-- The answer to a question about two words. -/
def askTwo (p : Process) (a sign b : String) : Except String Bool := do
  match sign with
  | "=" => .ok (a == b)
  | "!=" => .ok (a != b)
  | "<" => .ok (a < b)
  | ">" => .ok (b < a)
  | "-eq" => .ok ((← number a) == (← number b))
  | "-ne" => .ok ((← number a) != (← number b))
  | "-ge" => .ok ((← number b) ≤ (← number a))
  | "-gt" => .ok ((← number b) < (← number a))
  | "-le" => .ok ((← number a) ≤ (← number b))
  | "-lt" => .ok ((← number a) < (← number b))
  -- all files are of the same age
  | "-nt" => .ok false
  | "-ot" => .ok false
  | _ =>
    let place (path : String) : Option Place := (p.tree.find p.here path).toOption.map (·.1)
    .ok ((place a).isSome && place a == place b)

/-! ## Reading -/

/-- An answer, and the words from the last one that it is about. -/
abbrev Answer : Type := Except String (Bool × List String)

mutual

/-- The answer to a question that begins with some words. -/
def readOne (p : Process) (n : Nat) (sign : Option Sign) (l : List String) : Answer :=
  match n, l with
  | 0, _ => .ok (false, l)
  | _, [] => .ok (false, [])
  | n + 1, s :: r =>
    match sign with
    | some .not =>
      if r.isEmpty then (readOne p n none []).map fun a => (!a.1, l)
      else (readOne p n (signAt r) r).map fun a => (!a.1, a.2)
    | some .opening =>
      if signAt r = some .closing then .ok (false, r)
      else do
        let (answer, l) ← readAny p n (signAt r) r
        if signAt l.tail = some .closing then .ok (answer, l.tail)
        else .error "closing paren expected"
    | some .unary =>
      match r with
      | [] => .error s!"{s}: argument expected"
      | word :: _ => (askOne p s word).map (·, r)
    | _ =>
      match r with
      | o :: r' =>
        if signAt r = some .binary then
          match r' with
          | [] => .error s!"{o}: argument expected"
          | word :: _ => (askTwo p s o word).map (·, r')
        else .ok (!s.isEmpty, l)
      | [] => .ok (!s.isEmpty, l)

/-- The answer to questions that must all hold. -/
def readAll (p : Process) (n : Nat) (sign : Option Sign) (l : List String) : Answer :=
  match n with
  | 0 => .ok (false, l)
  | n + 1 => do
    let (answer, l) ← readOne p n sign l
    if signAt l.tail = some .and then
      let r := l.tail.tail
      let (more, l) ← readAll p n (signAt r) r
      .ok (answer && more, l)
    else .ok (answer, l)

/-- The answer to questions of which one must hold. -/
def readAny (p : Process) (n : Nat) (sign : Option Sign) (l : List String) : Answer :=
  match n with
  | 0 => .ok (false, l)
  | n + 1 => do
    let (answer, l) ← readAll p n sign l
    if signAt l.tail = some .or then
      let r := l.tail.tail
      let (more, l) ← readAny p n (signAt r) r
      .ok (answer || more, l)
    else .ok (answer, l)

end

/-- The answer to all words, of which none may be left. -/
def answerAll (p : Process) (sign : Option Sign) (l : List String) : Except String Bool := do
  match ← readAny p (4 * l.length + 4) sign l with
  | (_, s :: _ :: _) =>
    let said := "unexpected operator"
    .error (if s.isEmpty then said else s!"{s}: {said}")
  | (answer, _) => .ok answer

/-- Words of which a parenthesis at either end, or a sign at the start, is taken first. -/
def answerFew (p : Process) (l : List String) : Except String Bool :=
  match l with
  | [_, o, _] =>
    if sign? o = some .binary then answerAll p none l
    else if l.head? = some "(" ∧ l.getLast? = some ")" then
      answerAll p (signAt l.tail.dropLast) l.tail.dropLast
    else if l.head? = some "!" then (answerAll p (signAt l.tail) l.tail).map not
    else answerAll p (signAt l) l
  | _ => answerAll p (signAt l) l

/-- The answer to some words. -/
def answer (p : Process) (l : List String) : Except String Bool :=
  match l with
  | [] => .ok false
  | ["!", a, o, b] => (answerFew p [a, o, b]).map not
  | ["(", a, b, ")"] => answerAll p (signAt [a, b]) [a, b]
  | l => answerFew p l

end RemoteSearch.Machine.Check

namespace RemoteSearch.Machine

/-- Runs `test`, under the name that it was called by. -/
def runCheck (name : String) (arguments : List String) (p : Process) : Process :=
  match Check.answer p arguments with
  | .ok answer => p.finish (if answer then 0 else 1)
  | .error e => (p.warnAs name e).finish 2

/-- Runs `[`, which a bracket must end. -/
def runBracketCheck (arguments : List String) (p : Process) : Process :=
  if arguments.getLast? = some "]" then runCheck "[" arguments.dropLast p
  else (p.warnAs "[" "missing ]").finish 2

end RemoteSearch.Machine

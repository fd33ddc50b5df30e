import RemoteSearch.Machine.Expression.Awk
import RemoteSearch.Machine.TextTools
import RemoteSearch.Pattern.Match
import RemoteSearch.Text.Numeral
import RemoteSearch.Text.Split
import RemoteSearch.Unix.Awk
import RemoteSearch.Unix.Depth

/-!
# Filters

The `grep` and `awk` of a machine, as far as pipelines for searches use them. Both let some of the
lines of their input through. Patterns see bytes, not characters, as in a locale without a language.
-/

namespace RemoteSearch.Machine

open Text

/-- A test for a line. -/
abbrev LineTest : Type := List UInt8 → Bool

/-! ## Lines with a pattern -/

/-- How `grep` compares, and what it shows. -/
structure GrepQuery where
  literal : Bool := false
  /-- Whether the pattern is written in the basic way. -/
  basic : Bool := true
  whole : Bool := false
  inverted : Bool := false
  quiet : Bool := false
  counted : Bool := false
  numbered : Bool := false
  pattern : Option String := none
  paths : List String := []
  deriving Repr, DecidableEq, Inhabited

namespace GrepQuery

/-- Takes one letter of an option, if it is known. -/
def addLetter (q : GrepQuery) : Char → Option GrepQuery
  | 'E' => some { q with literal := false, basic := false }
  | 'F' => some { q with literal := true }
  | 'G' => some { q with literal := false, basic := true }
  | 'x' => some { q with whole := true }
  | 'v' => some { q with inverted := true }
  | 'q' => some { q with quiet := true }
  | 'c' => some { q with counted := true }
  | 'n' => some { q with numbered := true }
  | _ => none

/-- Takes an operand: the pattern, unless it is known, or else a file. -/
def addOperand (q : GrepQuery) (a : String) : GrepQuery :=
  if q.pattern.isSome then { q with paths := q.paths ++ [a] } else { q with pattern := some a }

/-- Takes the arguments: options, one pattern, and files. -/
def addArguments (q : GrepQuery) : List String → Option GrepQuery
  | [] => if q.pattern.isSome then some q else none
  | "--" :: r =>
    let q := r.foldl addOperand q
    if q.pattern.isSome then some q else none
  | "-e" :: s :: r => addArguments { q with pattern := some s } r
  | a :: r =>
    match a.toList with
    | '-' :: 'e' :: c :: cs => addArguments { q with pattern := some (String.ofList (c :: cs)) } r
    | '-' :: c :: cs => do addArguments (← (c :: cs).foldlM addLetter q) r
    | _ => addArguments (q.addOperand a) r

/-- A pattern of the basic way in the extended one: backslashes change places. -/
def extended : List Char → List Char
  | '\\' :: c :: r =>
    if ['(', ')', '\x7b', '\x7d', '|', '+', '?'].contains c then c :: extended r
    else '\\' :: c :: extended r
  | c :: r =>
    if ['(', ')', '\x7b', '\x7d', '|', '+', '?'].contains c then '\\' :: c :: extended r
    else c :: extended r
  | [] => []

/-- The test for one line of the pattern. -/
def lineTest? (q : GrepQuery) (source : List UInt8) : Option LineTest :=
  let text := asChars source
  if q.literal then
    some fun line => if q.whole then line == source else (cutAt text (asChars line)).isSome
  else
    (Extended.read? (if q.basic then extended text else text)).map fun node line =>
      if q.whole then node.matchesWhole (asChars line) else node.found (asChars line)

/-- The test of a query. Each line of the pattern is one of its own. -/
def test? (q : GrepQuery) : Option LineTest := do
  let sources := linesOf (Utf8.encodeString (← q.pattern))
  let tests ← (if sources.isEmpty then [[]] else sources).mapM q.lineTest?
  some fun line => tests.any (· line) != q.inverted

/-- Shows what a text has for a query; `title` is the name of the file, if there are several. -/
def search (q : GrepQuery) (test : LineTest) (title : String) (content : List UInt8)
    (p : Process) : Process :=
  let lines := linesOf content
  let front := Utf8.encodeString (if title.isEmpty then "" else title ++ ":")
  let kept := if q.numbered then (lines.zipIdx 1).filter fun l => test l.1 else
    (lines.filter test).map (·, 0)
  let number (n : Nat) : List UInt8 :=
    if q.numbered then Utf8.encodeString s!"{n}:" else []
  let shown :=
    if q.quiet then []
    else if q.counted then front ++ Utf8.encodeString s!"{kept.length}\n"
    else kept.flatMap fun l => front ++ number l.2 ++ l.1 ++ [10]
  (p.emit shown).finish (if kept.isEmpty then p.status else if p.status = 1 then 0 else p.status)

end GrepQuery

/-- Runs `grep`. -/
def runGrep (arguments : List String) (p : Process) : Process :=
  match GrepQuery.addArguments {} arguments with
  | none =>
    (p.complain ("Usage: grep [OPTION]... PATTERNS [FILE]...\n" ++
      "Try 'grep --help' for more information.\n")).finish 2
  | some q =>
    match q.test? with
    | none => (p.complain "grep: Invalid regular expression\n").finish 2
    | some test =>
      let searched := forEachFile (cannotRead "grep")
        (fun path content p =>
          q.search test (if 1 < q.paths.length then path else "") content p)
        (orInput q.paths) (p.finish 1)
      let failed := q.paths.any fun path => path != "-" && !(p.readFile path).toBool
      if failed && !(q.quiet && searched.status = 0) then searched.finish 2 else searched

/-! ## Lines by their fields -/

/-- The programs that searches give to `awk`, where fields lie between slashes. -/
inductive AwkProgram where
  | fieldsAtMost (n : Nat)
  /-- As many fields as the path in the variable `d` has, and no more than `n` beyond. -/
  | fieldsBelow (n : Nat)
  | lastField (pattern : List Char)
  deriving Repr, DecidableEq, Inhabited

namespace AwkProgram

/-- What comes after a beginning. -/
def stripStart? (start l : List Char) : Option (List Char) :=
  if start.isPrefixOf l then some (l.drop start.length) else none

/-- The program that a text is. -/
def ofText? (l : List Char) : Option AwkProgram :=
  match stripStart? "NF <= ".toList l, stripStart? Unix.DepthFilter.relativeHead.toList l,
    stripStart? "$NF ~ /".toList l with
  | some r, _, _ => (natOfDigits r).map fieldsAtMost
  | _, some r, _ => (natOfDigits r).map fieldsBelow
  | _, _, some r =>
    match Unix.Awk.readLiteral r with
    | some (body, []) =>
      -- a literal ends with its line
      if body.contains '\n' then none else some (lastField (Unix.Awk.plainSlashes body))
    | _ => none
  | none, none, none => none

/-- The fields of a line; an empty line has none. -/
def fieldsOf (line : List UInt8) : List (List Char) :=
  if line.isEmpty then [] else splitAt '/' (asChars line)

/-- The number of fields of a path in a variable; that of the root counts as one. -/
def fieldCount (path : String) : Nat :=
  if path == "/" then 1 else (fieldsOf (Utf8.encodeString path)).length

/-- The test of a program, with the variable `d`. -/
def test? (d : String) : AwkProgram → Option LineTest
  | fieldsAtMost n => some fun line => (fieldsOf line).length ≤ n
  | fieldsBelow n => some fun line => (fieldsOf line).length ≤ fieldCount d + n
  | lastField pattern =>
    (AwkExpression.read? (asChars (Utf8.encode pattern))).map fun node line =>
      node.found ((fieldsOf line).getLast?.getD [])

/--
The value of a variable that is set on the command line: the usual escapes are replaced, and other
backslashes stay.
-/
def settingValue (l : List Char) : List Char :=
  match l with
  | [] => []
  | '\\' :: r =>
    match h : AwkExpression.readNumbered? r with
    | some (c, rest) =>
      have := AwkExpression.length_le_of_readNumbered? h
      c :: settingValue rest
    | none =>
      match r with
      | c :: r' =>
        if c = '\\' ∨ c = '"' then c :: settingValue r'
        else
          match AwkExpression.controls.lookup c with
          | some d => d :: settingValue r'
          | none => '\\' :: settingValue (c :: r')
      | [] => ['\\']
  | c :: r => c :: settingValue r
termination_by l.length
decreasing_by
  all_goals
    simp only [List.length_cons] at *
    omega

end AwkProgram

/-- Runs `awk`. -/
def runAwk (arguments : List String) (p : Process) : Process :=
  let (d, text) :=
    match arguments with
    | ["-F/", "-v", setting, text] =>
      (String.ofList (AwkProgram.settingValue (setting.toList.drop 2)), text)
    | ["-F/", text] => ("", text)
    | _ => ("", "")
  match (AwkProgram.ofText? text.toList).bind (·.test? d) with
  | some test =>
    let (content, p) := p.takeInput
    (p.emit (joinLines ((linesOf content).filter test))).finish 0
  | none => (p.complain "awk: syntax error\n").finish 2

end RemoteSearch.Machine

import RemoteSearch.Machine.Lines
import RemoteSearch.Machine.Process
import RemoteSearch.Machine.Script.Reader
import RemoteSearch.Shell.Arithmetic
import RemoteSearch.Text.Numeral
import RemoteSearch.Unix.Glob

/-!
# Expansion of words

What words stand for: variables, outputs of commands and expressions take their places in a word.
Then the word falls apart where blanks came from a value that is not quoted, and what is left of it
may stand for the names of files.

Marks (`Mark`) keep in mind where each character came from, since this decides what it means later.
-/

namespace RemoteSearch.Machine

open Shell (Fragment)
open Text

/-! ## Marks -/

/-- A part of a word that has taken its places. -/
inductive Mark where
  /-- A character that was written without quotes. -/
  | plain (c : Char)
  | quoted (c : Char)
  /-- A character of a value that is not quoted. -/
  | loose (c : Char)
  /-- Nothing, but what stands for nothing is still a word. -/
  | kept
  /-- Here one word ends and another begins. -/
  | border
  deriving Repr, DecidableEq, Inhabited

namespace Mark

/-- The character, if there is one. -/
def char? : Mark → Option Char
  | plain c => some c
  | quoted c => some c
  | loose c => some c
  | kept => none
  | border => none

/-- The marks of a value. -/
def ofValue (isQuoted : Bool) (l : List Char) : List Mark :=
  if isQuoted then .kept :: l.map quoted else l.map loose

/-- A mark in something that takes the place of a variable. -/
def within (isQuoted : Bool) : Mark → Mark
  | plain c => if isQuoted then quoted c else loose c
  | loose c => if isQuoted then quoted c else loose c
  | m => m

/-- The text of a word that stays one. -/
def text (l : List Mark) : List Char :=
  l.filterMap fun m => if m = border then some ' ' else m.char?

/-- The text as a glob, in which quoted characters mean nothing. -/
def glob (l : List Mark) : List Char :=
  l.flatMap fun m =>
    match m with
    | quoted c => Unix.Glob.escapeText [c]
    | m => m.char?.toList

end Mark

/-! ## Falling apart -/

/-- A word that is being put together, with those before it, latest first. -/
structure Falling where
  words : List (List Mark) := []
  current : Option (List Mark) := none
  /-- Whether a blank has ended the last word, so that one more separator ends nothing. -/
  loosely : Bool := false
  deriving Repr, DecidableEq, Inhabited

namespace Falling

/-- Ends the word, if there is one. -/
def close (s : Falling) (loosely : Bool) : Falling :=
  match s.current with
  | some w => ⟨w.reverse :: s.words, none, loosely⟩
  | none => { s with loosely := s.loosely && loosely }

/-- Adds a mark to the word. -/
def add (s : Falling) (m : Mark) : Falling :=
  { s with current := some (m :: s.current.getD []), loosely := false }

/-- Takes a mark; `separators` divide values. -/
def step (separators : List Char) (s : Falling) (m : Mark) : Falling :=
  match m with
  | .border => s.close false
  | .loose c =>
    if !separators.contains c then s.add m
    else if [' ', '\t', '\n'].contains c then
      if s.current.isSome then s.close true else s
    else if s.current.isSome then s.close false
    else if s.loosely then { s with loosely := false }
    else { s with words := [] :: s.words }
  | m => s.add m

end Falling

/-- The words that marks make. -/
def fallApart (separators : List Char) (l : List Mark) : List (List Mark) :=
  let s := (l.foldl (Falling.step separators) {}).close false
  s.words.reverse

/-! ## Names of files -/

/-- Whether a mark can stand for several characters of names. -/
def Mark.isWild : Mark → Bool
  | .plain c => ['*', '?', '['].contains c
  | .loose c => ['*', '?', '['].contains c
  | _ => false

/-- The parts of a word between its slashes. -/
def pathParts (l : List Mark) : List (List Mark) :=
  l.foldr
    (fun m parts =>
      if m.char? = some '/' then [] :: parts
      else
        match parts with
        | part :: r => (m :: part) :: r
        | [] => [[m]])
    [[]]

/-- The names in a directory that a part of a word matches. -/
def matchingNames (p : Process) (directory : String) (part : List Mark) : List String :=
  match p.tree.find p.here (if directory.isEmpty then "." else directory) with
  | .ok (place, .directory _) =>
    let glob := Mark.glob part
    let dotted := (part.findSome? Mark.char?) = some '.'
    ((if dotted then [".", ".."] else []) ++ p.tree.names place).filter fun name =>
      (dotted || name.toList.head? != some '.') && Unix.Glob.isMatch glob name.toList
  | _ => []

/-- Whether there is something at a path. -/
def isThere (p : Process) (path : String) : Bool :=
  match p.tree.locate false p.here path with
  | .ok place => (p.tree.entry? place).isSome
  | .error _ => false

/-- The paths that begin with some text and go on with parts of a word. -/
def matchingPaths (p : Process) (start : String) : List (List Mark) → List String
  | [] => []
  | [part] =>
    if part.any Mark.isWild then (matchingNames p start part).map (start ++ ·)
    else
      let path := start ++ String.ofList (Mark.text part)
      if isThere p path then [path] else []
  | part :: r =>
    if part.any Mark.isWild then
      (matchingNames p start part).flatMap fun name => matchingPaths p (start ++ name ++ "/") r
    else matchingPaths p (start ++ String.ofList (Mark.text part) ++ "/") r

/-- What a word stands for: the paths that it matches, or itself. -/
def pathsOf (p : Process) (w : List Mark) : List String :=
  let itself := String.ofList (Mark.text w)
  if w.any Mark.isWild && !p.hasOption 'f' then
    let found := matchingPaths p "" (pathParts w)
    if found.isEmpty then [itself] else found.mergeSort fun a b => decide (a ≤ b)
  else [itself]

/-! ## Variables -/

/-- What is done with the value of a variable. -/
inductive Treatment where
  | itself
  | length
  /-- Another text instead of no value; `colon` also instead of an empty one. -/
  | otherwise (colon : Bool) (l : List Char)
  | assigned (colon : Bool) (l : List Char)
  | demanded (colon : Bool) (l : List Char)
  | instead (colon : Bool) (l : List Char)
  /-- Without what a pattern matches at the start or at the end, as much of it as can be or not. -/
  | withoutStart (much : Bool) (l : List Char)
  | withoutEnd (much : Bool) (l : List Char)
  deriving Repr, DecidableEq, Inhabited

/-- The name at the start of a text in braces. -/
def nameLength (l : List Char) : Nat :=
  match l with
  | [] => 0
  | c :: _ =>
    if Shell.isNameStart c then (l.takeWhile Shell.isNameChar).length
    else if c.isDigit then (l.takeWhile Char.isDigit).length
    else if Shell.isSpecialName c then 1
    else 0

/-- The treatment that a text after a name asks for. -/
def treatment? (l : List Char) : Option Treatment :=
  match l with
  | [] => some .itself
  | '%' :: '%' :: r => some (.withoutEnd true r)
  | '%' :: r => some (.withoutEnd false r)
  | '#' :: '#' :: r => some (.withoutStart true r)
  | '#' :: r => some (.withoutStart false r)
  | c :: r =>
    let (colon, c, r) :=
      match c, r with
      | ':', c' :: r' => (true, c', r')
      | c, r => (false, c, r)
    match c with
    | '-' => some (.otherwise colon r)
    | '=' => some (.assigned colon r)
    | '?' => some (.demanded colon r)
    | '+' => some (.instead colon r)
    | _ => none

/-- The name of a variable and the treatment that a text in braces asks for. -/
def readParameter? (l : List Char) : Option (List Char × Treatment) :=
  let counted :=
    match l with
    | '#' :: r => if !r.isEmpty && nameLength r = r.length then some r else none
    | _ => none
  match counted with
  | some name => some (name, .length)
  | none =>
    let n := nameLength l
    if n = 0 then none else (treatment? (l.drop n)).map (l.take n, ·)

/-- The value of a variable with any kind of name. -/
def parameter? (p : Process) (name : List Char) : Option String :=
  match name with
  | ['?'] => some (toString p.status)
  | ['#'] => some (toString p.arguments.length)
  | ['$'] => some (toString p.number)
  | ['-'] => some (String.ofList p.options)
  | ['0'] => some p.name
  | ['!'] => p.value? "!"
  | ['*'] => if p.arguments.isEmpty then none else some (" ".intercalate p.arguments)
  | ['@'] => if p.arguments.isEmpty then none else some (" ".intercalate p.arguments)
  | l =>
    if l.all Char.isDigit then p.arguments[(natOfDigits l).getD 0 - 1]?
    else p.value? (String.ofList l)

/-- Characters at which values fall apart. -/
def separators (p : Process) : List Char := ((p.value? "IFS").getD " \t\n").toList

/-- The marks of all arguments, each one a word for itself. -/
def argumentMarks (p : Process) (isQuoted : Bool) : List Mark :=
  ((p.arguments.map fun a => Mark.ofValue isQuoted a.toList).intersperse [.border]).flatten

/-- The marks of a value. -/
def valueMarks (p : Process) (name : List Char) (isQuoted : Bool) : List Mark :=
  match name, isQuoted with
  | ['@'], _ => argumentMarks p isQuoted
  | ['*'], false => argumentMarks p false
  | ['*'], true =>
    let between := String.ofList ((separators p).take 1)
    Mark.ofValue true (between.intercalate p.arguments).toList
  | name, _ => Mark.ofValue isQuoted ((parameter? p name).getD "").toList

/-- The shortest or longest of some texts that match a glob, at first the whole text. -/
def withoutMatch (glob whole : List Char) (rests : List (List Char × List Char)) : List Char :=
  match rests.find? fun r => Unix.Glob.isMatch glob r.1 with
  | some r => r.2
  | none => whole

/-- All ways to cut a text in two, the shortest first part first. -/
def cuts (l : List Char) : List (List Char × List Char) :=
  (List.range (l.length + 1)).map fun n => (l.take n, l.drop n)

/-! ## Expansion -/

/-- What a running script can call on: scripts and words one level further down. -/
structure Engine where
  run : Script → Process → Process
  expand : Word → Process → List Mark × Process

/-- Runs the lines of a text. A line that cannot be read ends the shell. -/
def runText (e : Engine) (line : Nat) (text : String) (p : Process) : Process :=
  let (scripts, misreading) := Script.ofText line text.toList
  let lasting := p.lasting && scripts.length = 1
  let p := scripts.foldl (fun p s => p.ifRunning (e.run s)) { p with lasting }
  match misreading with
  | none => p
  | some m =>
    p.ifRunning fun p => { p with line := m.line }.fail s!"Syntax error: {m.fault.message}"

/-- Runs a text for a command, which complaints name. -/
def runTextFor (e : Engine) (caller : String) (text : String) (p : Process) : Process :=
  let q := runText e 1 text { p with caller, lasting := false }
  { q with line := p.line, caller := p.caller }

/-- Runs the text that is to be run at a signal, if there is one; the status stays as it was. -/
def runTrap (e : Engine) (signal : String) (p : Process) : Process :=
  match p.traps.lookup signal with
  | none => p
  | some text =>
    let traps := if signal == "EXIT" then p.traps.filter (·.1 != signal) else p.traps
    let q := runText e 1 text { p with halt := none, traps, lasting := false }
    if q.halt.isSome then q else { q with status := p.status, halt := p.halt }

/-- The end of a shell: what is to be run then, and the streams are let go. -/
def conclude (e : Engine) (p : Process) : Process :=
  match p.halt with
  | some .expired => p.release
  | some (.killed _) => p.release
  | _ => (runTrap e "EXIT" { p with halt := some .exited }).release

/-- What a text writes when it runs as a shell of its own, without the line ends after it. -/
def outputOf (e : Engine) (text : List Char) (p : Process) : List Char × Process :=
  let k := p.streams.size
  let begun := p.branch.openStream 1 (.sink [] [])
  let inner := conclude e (runText e p.line (String.ofList text) begun)
  let sink := inner.streams[k]?.getD .nothing
  let joined := (p.joinShell inner).ifRunning (·.waitFor sink.ends)
  let bytes := sink.written.filter (· != 0)
  let trimmed := (bytes.reverse.dropWhile (· = 10)).reverse
  (Utf8.decode trimmed,
    { joined with
      status := if joined.halt.isSome then joined.status else p.status
      substitution := some inner.status })

/-- Gives variables the values that an expression gave them. -/
def applyChanges (p : Process) (changes : Shell.Arithmetic.Changes) : Process :=
  changes.reverse.foldl
    (fun p c => p.ifRunning fun p => p.assignChecked c.1 (toString c.2.toInt)) p

/-- The marks of a variable that is treated in some way. -/
def expandTreated (e : Engine) (name : List Char) (isQuoted : Bool) (t : Treatment) (p : Process) :
    List Mark × Process :=
  let value := parameter? p name
  let context : Shell.LexerContext := if isQuoted then .quotedOperand else .operand
  let isMissing (colon : Bool) : Bool :=
    match value with
    | some v => colon && v.isEmpty
    | none => true
  let other (l : List Char) (p : Process) : List Mark × Process :=
    let (marks, p) := e.expand (Shell.partsOf context l) p
    ((if isQuoted then [.kept] else []) ++ marks.map (Mark.within isQuoted), p)
  let unsetFails := p.hasOption 'u' && value.isNone && name != ['@'] && name != ['*']
  let unset : List Mark × Process := ([], p.fail s!"{String.ofList name}: parameter not set")
  match t with
  | .itself => if unsetFails then unset else (valueMarks p name isQuoted, p)
  | .length =>
    if unsetFails then unset
    else
      let text :=
        if name = ['@'] ∨ name = ['*'] then (" ".intercalate p.arguments) else value.getD ""
      (Mark.ofValue isQuoted (toString (Utf8.encodeString text).length).toList, p)
  | .otherwise colon l => if isMissing colon then other l p else (valueMarks p name isQuoted, p)
  | .instead colon l => if isMissing colon then other [] p else other l p
  | .assigned colon l =>
    if isMissing colon then
      let (marks, p) := other l p
      let text := Mark.text marks
      let p := p.ifRunning fun p =>
        if Script.isName name then p.assignChecked (String.ofList name) (String.ofList text)
        else p.fail "Bad substitution"
      (Mark.ofValue isQuoted text, p)
    else (valueMarks p name isQuoted, p)
  | .demanded colon l =>
    if isMissing colon then
      let (marks, p) := other l p
      let said :=
        if !l.isEmpty then String.ofList (Mark.text marks)
        else if colon then "parameter not set or null"
        else "parameter not set"
      ([], p.ifRunning fun p => p.fail s!"{String.ofList name}: {said}")
    else (valueMarks p name isQuoted, p)
  | .withoutStart much l =>
    if unsetFails then unset
    else
      let (marks, p) := e.expand (Shell.partsOf .operand l) p
      let v := (value.getD "").toList
      let found := if much then (cuts v).reverse else cuts v
      (Mark.ofValue isQuoted (withoutMatch (Mark.glob marks) v found), p)
  | .withoutEnd much l =>
    if unsetFails then unset
    else
      let (marks, p) := e.expand (Shell.partsOf .operand l) p
      let v := (value.getD "").toList
      let found := (if much then cuts v else (cuts v).reverse).map Prod.swap
      (Mark.ofValue isQuoted (withoutMatch (Mark.glob marks) v found), p)

/-- The marks of a part of a word. -/
def expandFragment (e : Engine) (p : Process) : Fragment → List Mark × Process
  | .bare c => ([.plain c], p)
  | .quoted c => ([.quoted c], p)
  | .parameter text isQuoted =>
    match readParameter? text with
    | some (name, t) => expandTreated e name isQuoted t p
    | none => ([], p.fail "Bad substitution")
  | .command text isQuoted =>
    let (l, p) := outputOf e text p
    (Mark.ofValue isQuoted l, p)
  | .arithmetic text isQuoted =>
    let (marks, p) := e.expand (Shell.partsOf .document text) p
    if p.halt.isSome then ([], p)
    else
      let l := Mark.text marks
      match Shell.Arithmetic.evaluate p.value l with
      | .ok (n, changes) =>
        (Mark.ofValue isQuoted (toString n.toInt).toList, applyChanges p changes)
      | .error c => ([], p.fail (c.message (String.ofList l)))
  | .document text literal =>
    if literal then (Mark.ofValue true text, p)
    else
      let (marks, p) := e.expand (Shell.partsOf .document text) p
      (.kept :: marks, p)

/-- The home of the user whose name follows a tilde at the start of a word. -/
def home? (p : Process) (name : List Char) : Option String :=
  if name.isEmpty then p.value? "HOME"
  else if name = "root".toList then some "/root"
  else none

/-- A word in which a tilde at the start has taken its place; `ends` are what may end the name. -/
def withHome (p : Process) (ends : List Char) (w : Word) : List Mark × Word :=
  match w with
  | .bare '~' :: r =>
    let name := r.takeWhile fun f =>
      match f with
      | .bare c => !ends.contains c
      | _ => false
    let rest := r.drop name.length
    let isEnded : Bool :=
      match rest with
      | [] => true
      | .bare _ :: _ => true
      | _ => false
    match if isEnded then home? p (name.filterMap Fragment.char?) else none with
    | some path => (Mark.ofValue true path.toList, rest)
    | none => ([], w)
  | _ => ([], w)

/-- The marks of some parts of a word after those before them. -/
def expandParts (e : Engine) (before : List Mark) (w : Word) (p : Process) : List Mark × Process :=
  let (marks, p) := w.foldl
    (fun (marks, p) f =>
      if p.halt.isSome then (marks, p)
      else
        let (more, p) := expandFragment e p f
        (more.reverse ++ marks, p))
    (before.reverse, p)
  (marks.reverse, p)

/-- The marks of a word. -/
def expandWord (e : Engine) (w : Word) (p : Process) : List Mark × Process :=
  let (start, rest) := withHome p ['/'] w
  expandParts e start rest p

/-- The words that words stand for. -/
def expandWords (e : Engine) (ws : List Word) (p : Process) : List String × Process :=
  let (found, p) := ws.foldl
    (fun (found, p) w =>
      if p.halt.isSome then (found, p)
      else
        let (marks, p) := expandWord e w p
        -- a word of which nothing but quotes is written stands for the empty text
        let words :=
          if w.isEmpty then [""] else (fallApart (separators p) marks).flatMap (pathsOf p)
        (words.reverse ++ found, p))
    (([] : List String), p)
  (found.reverse, p)

/-- The text of a word that stays one. -/
def expandText (e : Engine) (w : Word) (p : Process) : String × Process :=
  let (marks, p) := expandWord e w p
  (String.ofList (Mark.text marks), p)

/-- The parts of a word up to its colons, at which tildes may stand. -/
def colonParts (w : Word) : List Word :=
  w.foldr
    (fun f parts =>
      match parts with
      | part :: r => if f = .bare ':' then [f] :: part :: r else (f :: part) :: r
      | [] => [[f]])
    [[]]

/-- The value of an assignment. -/
def expandValue (e : Engine) (w : Word) (p : Process) : String × Process :=
  let (marks, p) := (colonParts w).foldl
    (fun (marks, p) part =>
      let (colon, part) :=
        match part with
        | .bare ':' :: r => ([Mark.plain ':'], r)
        | r => ([], r)
      let (start, rest) := withHome p ['/'] part
      expandParts e (marks ++ colon ++ start) rest p)
    (([] : List Mark), p)
  (String.ofList (Mark.text marks), p)

end RemoteSearch.Machine

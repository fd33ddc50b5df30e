import RemoteSearch.Machine.FileTools
import RemoteSearch.Machine.Lines
import RemoteSearch.Machine.Printing

/-!
# Tools for text

The commands that pass text on as a whole or in part, and those that count it. A tool without
operands reads its input.
-/

namespace RemoteSearch.Machine

open Text

/-! ## Operands -/

/-- Calls something with the content of each operand, or complains of it. -/
def forEachSource (input : Process → List UInt8 × Process) (complaint : String → Trouble → String)
    (body : String → List UInt8 → Process → Process) (paths : List String) (p : Process) :
    Process :=
  paths.foldl
    (fun p path =>
      if path == "-" then
        let (content, p) := input p
        p.ifRunning (body path content)
      else
        match p.readFile path with
        | .ok content => body path content p
        | .error e => complainOf (complaint path e) p)
    p

/-- Calls something with the content of each operand; the input is read to its end. -/
def forEachFile : (complaint : String → Trouble → String) →
    (body : String → List UInt8 → Process → Process) → (paths : List String) → Process → Process :=
  forEachSource Process.takeInput

/-- What most tools say of a file that they cannot read. -/
def cannotRead (tool path : String) (e : Trouble) : String := s!"{tool}: {path}: {e.phrase}"

/-- What tools say that open a file before they read it. -/
def cannotOpen (tool path : String) (e : Trouble) : String :=
  if e == .isDirectory then s!"{tool}: error reading '{path}': {e.phrase}"
  else s!"{tool}: cannot open '{path}' for reading: {e.phrase}"

/-- The operands, or the input if there are none. -/
def orInput (paths : List String) : List String := if paths.isEmpty then ["-"] else paths

/-- Runs a tool that makes some bytes of others, for each operand. -/
def runMapping (tool : String) (f : List UInt8 → List UInt8) (arguments : List String)
    (p : Process) : Process :=
  withOptions tool 1 [] [] [] arguments
    (fun g p =>
      forEachFile (cannotRead tool) (fun _ content p => p.emit (f content)) (orInput g.operands)
        (p.finish 0))
    p

/-! ## Whole text -/

/-- Passes the input on as it comes. -/
def passInput (p : Process) : Process :=
  let (chunks, ends, p) := p.takeChunks
  let p := chunks.foldl
    (fun p c => p.ifRunning fun p => (p.waitFor (some c.time)).ifRunning (·.emit c.bytes)) p
  p.ifRunning (·.waitFor ends)

/-- Each line from its end to its start. -/
def reverseLines (l : List UInt8) : List UInt8 :=
  let (lines, last) := cutLines l
  joinLines (lines.map List.reverse) ++ last.reverse

/-- Lines with their numbers, which count on from one. -/
def numbered (l : List UInt8) : List UInt8 :=
  let (lines, last) := cutLines l
  let label (n : Nat) : List UInt8 := pad 6 false (Utf8.encodeString (toString (n + 1))) ++ [9]
  let whole := (lines.zipIdx).flatMap fun q => label q.2 ++ q.1 ++ [10]
  if last.isEmpty then whole else whole ++ label lines.length ++ last

/-- Shows one operand of `cat`. -/
def showFile (g : Given) (p : Process) (path : String) : Process :=
  if path == "-" && !g.has 'n' then passInput p
  else
    forEachFile (cannotRead "cat")
      (fun _ content p => p.emit (if g.has 'n' then numbered content else content)) [path] p

/-- Runs `cat`. -/
def runCat (arguments : List String) (p : Process) : Process :=
  withOptions "cat" 1 ['n', 'u'] [] [] arguments
    (fun g p => (orInput g.operands).foldl (showFile g) (p.finish 0)) p

/-- Runs `tee`. -/
def runTee (arguments : List String) (p : Process) : Process :=
  withOptions "tee" 1 ['a', 'i'] [] [] arguments
    (fun g p =>
      let (content, p) := p.takeInput
      g.operands.foldl
        (fun p path =>
          match p.tree.write p.here path content (g.has 'a') with
          | .ok tree => { p with tree }
          | .error e => complainOf (cannotRead "tee" path e) p)
        ((p.emit content).finish 0))
    p

/-! ## Parts of a text -/

/-- A number of lines or bytes, counted from one end or the other. -/
structure Portion where
  bytes : Bool := false
  /-- Whether the number counts from the other end than usual. -/
  opposite : Bool := false
  count : Nat := 10
  deriving Repr, DecidableEq, Inhabited

namespace Portion

/-- The pieces that are counted. -/
def pieces (q : Portion) (l : List UInt8) : List (List UInt8) :=
  if q.bytes then l.map ([·])
  else
    let (lines, last) := cutLines l
    lines.map (· ++ [10]) ++ (if last.isEmpty then [] else [last])

/-- Whether a byte is the last one of a piece. -/
def isEnd (q : Portion) (b : UInt8) : Bool := q.bytes || b = 10

/-- The first part of a text. -/
def first (q : Portion) (l : List UInt8) : List UInt8 :=
  if q.opposite then
    let pieces := q.pieces l
    (pieces.take (pieces.length - q.count)).flatten
  else (Process.cutCounted q.isEnd q.count [] l).1

/-- As much of the input as the first part needs. -/
def input (q : Portion) (p : Process) : List UInt8 × Process :=
  if q.opposite then p.takeInput else p.takeCounted q.isEnd q.count

/-- The last part of a text; in the opposite way it begins with the piece of that number. -/
def last (q : Portion) (l : List UInt8) : List UInt8 :=
  let pieces := q.pieces l
  (if q.opposite then pieces.drop (q.count - 1) else pieces.drop (pieces.length - q.count)).flatten

end Portion

/-- The portion that options ask for; `mark` stands before a number from the other end. -/
def portion? (tool : String) (mark : Char) (g : Given) : Except String Portion :=
  match g.options.reverse.find? fun o => o.1 == 'n' || o.1 == 'c' with
  | none => .ok {}
  | some (letter, value) =>
    let l := value.toList
    let opposite := l.head? = some mark
    let digits := if opposite || l.head? = some '-' || l.head? = some '+' then l.tail else l
    match natOfDigits digits with
    | some count => .ok { bytes := letter == 'c', opposite, count }
    | none =>
      let what := if letter == 'c' then "bytes" else "lines"
      .error s!"{tool}: invalid number of {what}: '{value}'\n"

/-- A number right after the dash as the value of an option. -/
def spelledOut (arguments : List String) : List String :=
  match arguments with
  | a :: r =>
    match a.toList with
    | '-' :: d :: ds =>
      if (d :: ds).all Char.isDigit then s!"-n{String.ofList (d :: ds)}" :: r else arguments
    | _ => arguments
  | [] => []

/-- Runs `head` or `tail`. -/
def runPart (tool : String) (mark : Char) (input : Portion → Process → List UInt8 × Process)
    (f : Portion → List UInt8 → List UInt8) (arguments : List String) (p : Process) : Process :=
  withOptions tool 1 ['q', 'v'] ['n', 'c'] [] (spelledOut arguments)
    (fun g p =>
      match portion? tool mark g with
      | .error e => (p.complain e).finish 1
      | .ok q =>
        let titled := (1 < g.operands.length || g.has 'v') && !g.has 'q'
        let title (path : String) : String :=
          let between := if g.operands.head? = some path then "" else "\n"
          let name := if path == "-" then "standard input" else path
          s!"{between}==> {name} <==\n"
        forEachSource (input q) (cannotOpen tool)
          (fun path content p =>
            (if titled then p.print (title path) else p).emit (f q content))
          (orInput g.operands) (p.finish 0))
    p

/-! ## Counts -/

/-- Whether a byte is a blank. -/
def isBlankByte (b : UInt8) : Bool := b = 32 || (9 ≤ b && b ≤ 13)

/-- The number of words. -/
def countWords (l : List UInt8) : Nat :=
  (l.foldl
    (fun (n, inside) b =>
      if isBlankByte b then (n, false) else if inside then (n, true) else (n + 1, true))
    (0, false)).1

/-- The counts of a text: its lines, words and bytes. -/
def countsOf (l : List UInt8) : List Nat := [l.count 10, countWords l, l.length]

/-- The counts that options ask for. -/
def chosenCounts (g : Given) (counts : List Nat) : List Nat :=
  let wanted := [g.has 'l', g.has 'w', g.has 'c' || g.has 'm']
  if wanted.any id then (counts.zip wanted).filterMap fun q => if q.2 then some q.1 else none
  else counts

/-- A line of counts. -/
def countLine (width : Nat) (counts : List Nat) (path : String) : String :=
  let texts := counts.map fun n =>
    let digits := toString n
    String.ofList (List.replicate (width - digits.length) ' ') ++ digits
  " ".intercalate texts ++ (if path.isEmpty then "" else " " ++ path) ++ "\n"

/-- Runs `wc`. -/
def runCount (arguments : List String) (p : Process) : Process :=
  withOptions "wc" 1 ['l', 'w', 'c', 'm'] [] [] arguments
    (fun g p =>
      let paths := orInput g.operands
      let size := (paths.filterMap fun path => (p.readFile path).toOption.map (·.length)).foldl (· + ·) 0
      let single := paths.length ≤ 1 && (chosenCounts g [0, 0, 0]).length = 1
      let least := if paths.contains "-" then 7 else 1
      let width := if single then 1 else max least (toString size).length
      let named (path : String) : String := if g.operands.isEmpty then "" else path
      let counted := forEachFile (cannotRead "wc")
        (fun path content p =>
          p.print (countLine width (chosenCounts g (countsOf content)) (named path)))
        paths (p.finish 0)
      if paths.length ≤ 1 then counted
      else
        let all := paths.filterMap fun path => (p.readFile path).toOption.map countsOf
        let total := all.foldl (fun a b => a.zipWith (· + ·) b) [0, 0, 0]
        counted.print (countLine width (chosenCounts g total) "total"))
    p

end RemoteSearch.Machine

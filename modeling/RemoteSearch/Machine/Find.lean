import RemoteSearch.Machine.Lines
import RemoteSearch.Machine.Process
import RemoteSearch.Text.Numeral
import RemoteSearch.Unix.Glob

/-!
# Finding files

The `find` of a machine: it starts somewhere, goes through all that lies below, and prints the path
of each object that passes its tests. If links are followed, a directory is not entered from within
itself.

## Termination

`visit` counts down the levels that it goes down, of which there are no more than entries.
-/

namespace RemoteSearch.Machine

open Text

/-- A test for an object. -/
inductive FindTest where
  | kind (c : Char)
  | name (glob : String)
  | notName (glob : String)
  | filesystem (name : String)
  deriving Repr, DecidableEq, Inhabited

/-- What `find` is asked for. -/
structure FindQuery where
  followLinks : Bool := false
  start : String := "."
  maxDepth : Option Nat := none
  tests : List FindTest := []
  deriving Repr, DecidableEq, Inhabited

/-- The type of the filesystem on which all files lie. -/
def filesystem : String := "overlay"

/-- The letter for a kind of object. -/
def kindLetter : Entry → Char
  | .file .. => 'f'
  | .directory _ => 'd'
  | .link _ => 'l'

/-- Whether a glob matches a name, byte by byte. -/
def globMatches (glob name : String) : Bool :=
  Unix.Glob.isMatch (asChars (Utf8.encodeString glob)) (asChars (Utf8.encodeString name))

/-- Whether an object of a name passes a test. -/
def FindTest.passes (name : String) (e : Entry) : FindTest → Bool
  | kind c => kindLetter e == c
  | .name glob => globMatches glob name
  | notName glob => !globMatches glob name
  | filesystem t => t == Machine.filesystem

namespace FindQuery

/-- With one more test. -/
def withTest (q : FindQuery) (t : FindTest) : FindQuery := { q with tests := q.tests ++ [t] }

/-- The greatest number that can be a limit of depth. -/
def greatestDepth : Nat := 0x7FFF_FFFF

/-- Takes options and tests from arguments, or says what is wrong with them. -/
def addArguments (q : FindQuery) : List String → Except String FindQuery
  | [] => .ok q
  | "-maxdepth" :: n :: r =>
    match natOfDigits n.toList with
    | some d =>
      if d ≤ greatestDepth then addArguments { q with maxDepth := some d } r
      else .error s!"{n}: Numerical result out of range"
    | none => .error s!"Expected a positive decimal integer argument to -maxdepth, but got '{n}'"
  | "-xdev" :: r => addArguments q r
  | "-fstype" :: t :: r => addArguments (q.withTest (.filesystem t)) r
  | "-type" :: k :: r =>
    match k.toList with
    | [c] => addArguments (q.withTest (.kind c)) r
    | _ => .error s!"unknown argument to -type: {k}"
  | "-name" :: g :: r => addArguments (q.withTest (.name g)) r
  | "!" :: "-name" :: g :: r => addArguments (q.withTest (.notName g)) r
  | a :: _ => .error s!"unknown predicate '{a}'"

/-- Takes the start from arguments, and then options and tests. -/
def addStart (q : FindQuery) : List String → Except String FindQuery
  | [] => .ok q
  | s :: r =>
    if s.toList.head? = some '-' then q.addArguments (s :: r)
    else { q with start := s }.addArguments r

/-- What the arguments of `find` ask for. -/
def ofArguments : List String → Except String FindQuery
  | "-L" :: r => addStart { followLinks := true } r
  | r => addStart {} r

end FindQuery

/-- The path of a name in a directory. -/
def joinPath (directory name : String) : String :=
  if directory.toList.getLast? = some '/' then directory ++ name else s!"{directory}/{name}"

/-- The last name of a path. -/
def lastName (path : String) : String :=
  match (split '/' path).getLast? with
  | some "" => path
  | some name => name
  | none => path

/-- What a search says. -/
inductive FindLine where
  /-- The path of something that passes the tests. -/
  | found (path : String)
  | complaint (text : String)
  deriving Repr, DecidableEq, Inhabited

/-- A path in quotes; what is no visible character of one byte is spelled out. -/
def quotedPath (path : String) : String :=
  let named : List (Char × String) :=
    [('\'', "\\'"), ('\\', "\\\\"), ('\x07', "\\a"), ('\x08', "\\b"), ('\t', "\\t"),
      ('\n', "\\n"), ('\x0b', "\\v"), ('\x0c', "\\f"), ('\r', "\\r")]
  let octal (b : UInt8) : String :=
    let digit (n : Nat) : Char := Char.ofNat (48 + n % 8)
    String.ofList ['\\', digit (b.toNat / 64), digit (b.toNat / 8), digit b.toNat]
  let spelled (c : Char) : String :=
    match named.lookup c with
    | some s => s
    | none =>
      if ' ' ≤ c ∧ c ≤ '~' then c.toString
      else String.join ((Utf8.encodeString c.toString).map octal)
  "'" ++ String.join (path.toList.map spelled) ++ "'"

namespace Tree

/--
What lies in a place, as the tests see it, with the place that is entered from there. A link that is
followed and leads to nothing is seen itself.
-/
def seen (t : Tree) (follow : Bool) (p : Place) : Except Trouble (Entry × Place) :=
  match t.entry? p, t.locate true [] (pathOf p) with
  | none, _ => .error .absent
  | some (.link target), .ok q =>
    if follow then
      match t.entry? q with
      | some e => .ok (e, q)
      | none => .ok (.link target, p)
    else .ok (.link target, p)
  | some (.link target), .error .absent => .ok (.link target, p)
  | some (.link target), .error trouble =>
    if follow then .error trouble else .ok (.link target, p)
  | some e, _ => .ok (e, p)

/--
What is found from a place downwards, in its order. `path` is how the place is reached, `level` how
deep it lies, and `above` the directories that were entered on the way, with their paths.
-/
def visit (t : Tree) (q : FindQuery) :
    Nat → Nat → String → Place → List (Place × String) → List FindLine
  | 0, _, _, _, _ => []
  | n + 1, level, path, place, above =>
    match t.seen q.followLinks place with
    | .error trouble => [.complaint s!"{quotedPath path}: {trouble.phrase}"]
    | .ok (e, inside) =>
      match if e.isDirectory then above.lookup inside else none with
      | some before =>
        -- a directory that is met again below itself
        [.complaint ("File system loop detected; " ++
          s!"{quotedPath path} is part of the same file system loop as {quotedPath before}.")]
      | none =>
        let shown := if q.tests.all (·.passes (lastName path) e) then [.found path] else []
        if e.isDirectory && q.maxDepth.all (level < ·) then
          shown ++ (t.names inside).flatMap fun name =>
            t.visit q n (level + 1) (joinPath path name) (inside ++ [name])
              ((inside, path) :: above)
        else shown

/-- Where a search starts. A link there that is followed may lead to nothing, but not astray. -/
def startPlace (t : Tree) (here : Place) (q : FindQuery) : Except Trouble Place := do
  let p ← t.locate false here q.start
  match t.entry? p, t.locate true here q.start with
  | none, _ => .error .absent
  | some (.link _), .error .absent => .ok p
  | some (.link _), .error e => if q.followLinks then .error e else .ok p
  | some _, _ => .ok p

/-- What is found from a directory. -/
def search (t : Tree) (here : Place) (q : FindQuery) : Except Trouble (List FindLine) := do
  let p ← t.startPlace here q
  .ok (t.visit q (t.entries.length + 2) 0 q.start p [])

end Tree

/-- Runs `find`. -/
def runFind (arguments : List String) (p : Process) : Process :=
  match FindQuery.ofArguments arguments with
  | .error m => (p.complain s!"find: {m}\n").finish 1
  | .ok q =>
    match p.tree.search p.here q with
    | .error e => (p.complain s!"find: {quotedPath q.start}: {e.phrase}\n").finish 1
    | .ok lines =>
      lines.foldl
        (fun p line =>
          match line with
          | .found path => p.print (path ++ "\n")
          | .complaint text => (p.complain s!"find: {text}\n").finish 1)
        (p.finish 0)

end RemoteSearch.Machine

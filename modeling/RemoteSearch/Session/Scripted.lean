import RemoteSearch.Gzip.Basic
import RemoteSearch.Session.Basic
import RemoteSearch.Session.Request
import RemoteSearch.Text.Blank
import RemoteSearch.Text.Split
import RemoteSearch.Text.Utf8

/-!
# Scripted sessions

A session without a host: what it answers is laid down in a script. It keeps a few files, so that
output can be written, compressed, read and removed as on a host, and it logs every call.

A command whose answer is laid down gets that answer. Otherwise a command that sends its output to a
temporary file is taken for a search and writes the next output of the script there; one that
compresses a file replaces it; and all others get one common answer.
-/

namespace RemoteSearch.Session

open Text

/-- A laid down answer to a command: an outcome, or the failure to get one. -/
inductive Line where
  | outcome (o : Outcome)
  | failure (message : String)
  deriving Repr, DecidableEq, Inhabited

/-- Calls that fail: none, all, or those for certain paths, each with a message. -/
inductive Fault where
  | never
  | always (message : String)
  | atPaths (messages : List (String × String))
  deriving Repr, DecidableEq, Inhabited

/-- The message of the fault for a path, if the call for it fails. -/
def Fault.message? : Fault → String → Option String
  | never, _ => none
  | always m, _ => some m
  | atPaths l, path => l.lookup path

/-- What a session without a host answers. -/
structure Script where
  tempDir : String
  tempDirFault : Option String := none
  /-- What searches write, in order; the last comes again and again. -/
  outputs : List (List UInt8) := []
  /-- What every compressed file holds, if it is not the compressed content. -/
  compressed : Option (List UInt8) := none
  missingDirectories : List String := []
  /-- How often the loading of a module fails at first. -/
  refusals : Nat := 0
  /-- Answers to certain commands, in order; the last comes again and again. -/
  lines : List (String × List Line) := []
  searchLine : Line := .outcome {}
  compressLine : Option Line := none
  otherLine : Line := .outcome {}
  presenceFault : Fault := .never
  directoryFault : Fault := .never
  readFault : Fault := .never
  deleteFault : Fault := .never
  /-- The time at home. -/
  clock : Int := 0
  /-- Directories at home in which copies can be made. -/
  homeDirectories : List String := []
  deriving Inhabited

/-- Where a scripted session has come to. -/
structure Scene where
  /-- The files, latest first. -/
  files : List (String × List UInt8) := []
  /-- The calls so far, latest first. -/
  log : List HostCall := []
  searches : Nat := 0
  loads : Nat := 0
  /-- The commands so far that had an answer laid down, latest first. -/
  played : List String := []
  deriving Inhabited

/-- The item of a list with a number, the last one if there are not as many. -/
def nthOrLast {α : Type} (l : List α) (n : Nat) : Option α := (l[n]?).or l.getLast?

namespace Scene

/-- The content of a file. -/
def file? (s : Scene) (path : String) : Option (List UInt8) := s.files.lookup path

/-- Without a file. -/
def withoutFile (s : Scene) (path : String) : Scene :=
  { s with files := s.files.filter (·.1 != path) }

/-- With a file, in place of any earlier one of the name. -/
def withFile (s : Scene) (path : String) (content : List UInt8) : Scene :=
  { s.withoutFile path with files := (path, content) :: (s.withoutFile path).files }

/-- The log since the scene began or was last taken up, oldest first, and the scene without it. -/
def takeLog (s : Scene) : List HostCall × Scene := (s.log.reverse, { s with log := [] })

end Scene

/-- A text without quotes at its ends. -/
def unquoted (l : List Char) : List Char :=
  dropEndWhile (· == '\'') ((trim l).dropWhile (· == '\''))

/-- The temporary file that a command sends its output to. -/
def outputFile? (command : String) : Option String := do
  let l := command.toList
  let (_, target) ← (cutAtLast " > ".toList l).or (cutAtLast " -FilePath ".toList l)
  let path := unquoted target
  if ".out".toList.isSuffixOf path then some (String.ofList path) else none

/-- The file that a command compresses. -/
def compressedFile? (command : String) : Option String := do
  let l := command.toList
  let head ← ["gzip -f ".toList, "Gzip-File ".toList].find? (·.isPrefixOf l)
  some (String.ofList (unquoted (l.drop head.length)))

/-- A failure of the way to the host. -/
def failed {α : Type} (subject message : String) : Except Error α :=
  .error (.transport subject message)

/-- The answer to a command that a line lays down. -/
def Line.result (command : String) : Line → Except Error Outcome
  | outcome o => .ok o
  | failure m => failed command m

namespace Script

/-- A search writes the next output. -/
def playSearch (s : Script) (path : String) (scene : Scene) : Scene :=
  let written := (nthOrLast s.outputs scene.searches).getD []
  let scene := { scene with searches := scene.searches + 1 }
  match s.searchLine with
  | .outcome _ => scene.withFile path written
  | .failure _ => scene

/-- A file is replaced by its compressed form, unless the script says what happens instead. -/
def playCompression (s : Script) (command path : String) (scene : Scene) :
    Except Error Outcome × Scene :=
  match s.compressLine with
  | some line => (line.result command, scene)
  | none =>
    match scene.file? path with
    | none => (failed command "no such file", scene)
    | some content =>
      (.ok {}, (scene.withoutFile path).withFile (path ++ ".gz")
        (s.compressed.getD (Gzip.pack content)))

/-- A command runs. -/
def play (s : Script) (command : String) (scene : Scene) : Except Error Outcome × Scene :=
  match s.lines.lookup command with
  | some lines =>
    let line := (nthOrLast lines (scene.played.count command)).getD s.otherLine
    (line.result command, { scene with played := command :: scene.played })
  | none =>
    match outputFile? command with
    | some path => (s.searchLine.result command, s.playSearch path scene)
    | none =>
      match compressedFile? command with
      | some path => s.playCompression command path scene
      | none => (s.otherLine.result command, scene)

/-- A call that is about a path: it fails as the fault says, and else goes on. -/
def barring {α : Type} (fault : Fault) (path : String) (r : Except Error α) : Except Error α :=
  match fault.message? path with
  | some m => failed path m
  | none => r

/-- What there is to a file, or the failure that it is not there. -/
def existing (scene : Scene) (path : String) : Except Error (List UInt8) :=
  match scene.file? path with
  | some content => .ok content
  | none => failed path "no such file"

/-- The answer to a call, and what it changes. -/
def answerCall (s : Script) (scene : Scene) : (c : HostCall) → Except Error c.Value × Scene
  | .tempDir =>
    (match s.tempDirFault with
      | some m => failed "temp_dir" m
      | none => .ok s.tempDir, scene)
  | .loadModule name _ =>
    (if scene.loads < s.refusals then failed name "module refused" else .ok (),
      { scene with loads := scene.loads + 1 })
  | .execute command _ => s.play command scene
  | .isPresent path _ => (barring s.presenceFault path (.ok (scene.file? path).isSome), scene)
  | .length path _ => ((existing scene path).map List.length, scene)
  | .isDirectory path _ =>
    (barring s.directoryFault path
      (.ok (!s.missingDirectories.contains path && (scene.file? path).isNone)), scene)
  | .read path _ => (barring s.readFault path ((existing scene path).map fun b => ⟨b, none⟩), scene)
  | .delete path =>
    let r := barring s.deleteFault path (existing scene path)
    (r.map fun _ => (), if r.isOk then scene.withoutFile path else scene)

/-- What is said when a file is not there. -/
def noFile : String := "No such file or directory (os error 2)"

/-- The answer at home, where there are directories but no files. -/
def answerHome (s : Script) : (c : HomeCall) → c.Answer
  | .clock => s.clock
  | .note .. => ()
  | .watch .. => ()
  | .unwatch _ => ()
  | .readHere _ => .error noFile
  | .makeCopy none => .ok ()
  | .makeCopy (some d) => if s.homeDirectories.contains d then .ok () else .error (.io noFile)
  | .dropCopy => ()

/-- The answer to a request; calls are logged before anything else. -/
def answer (s : Script) : (q : Request) → StateM Scene q.Reply
  | .host c => fun scene => s.answerCall { scene with log := c :: scene.log } c
  | .home c => fun scene => (s.answerHome c, scene)

end Script

end RemoteSearch.Session

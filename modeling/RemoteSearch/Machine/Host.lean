import RemoteSearch.Local.Drain
import RemoteSearch.Local.Launcher
import RemoteSearch.Machine.Run
import RemoteSearch.Session.Basic
import RemoteSearch.Session.Request

/-!
# Machines as hosts

A machine in memory that answers what a session on this machine answers. It has a tree of files, a
few programs by which commands can be launched, and the time that a clock shows. So searches can be
run from their conditions to their records without leaving the library.
-/

namespace RemoteSearch.Machine

open Text

/-- A program that commands can be handed to. -/
inductive Program where
  /-- A POSIX shell. -/
  | shell
  /-- A program that prints each of its arguments in brackets on lines of its own. -/
  | argumentPrinter
  deriving Repr, DecidableEq, Inhabited

/-- A machine. -/
structure Host where
  tree : Tree
  programs : List (String × Program)
  launcher : Local.Launcher
  modules : Local.Modules := []
  /-- The directory in which commands run. -/
  workingDirectory : String
  /-- Variables that commands find set. -/
  bindings : List (String × String) := []
  tempDir : String := "/tmp"
  clock : Int := 0
  deriving Inhabited

namespace Host

/-- The session with the machine. -/
def session (workspace : Option String) : Session := ⟨Session.localName, '/', workspace⟩

/-- The exit code of a command that did not come to its end by itself. -/
def noExitCode : Int := -1

/-- The number of the shell that runs a command. -/
def shellNumber : Nat := 4242

/-- A shell about to run a command: its input is empty, and its outputs are kept. -/
def process (h : Host) (here : Place) (budget : Nat) : Process :=
  let bindings := ("PWD", h.workingDirectory) :: h.bindings
  { tree := h.tree
    here
    directory := h.workingDirectory
    name := h.launcher.program
    number := shellNumber
    nextNumber := shellNumber + 1
    bindings
    exported := bindings.map (·.1)
    budget
    streams := #[.nothing, .sink [] [], .sink [] []]
    table := [(0, 0), (1, 1), (2, 2)] }

/-- How a process has ended: all that it began must let go of its outputs, or the time is up. -/
def outcomeOf (p : Process) : Outcome :=
  let output := p.streams[1]?.getD .nothing
  let errors := p.streams[2]?.getD .nothing
  let ends := later p.ends (later output.ends errors.ends)
  let isKilled : Bool :=
    match p.halt with
    | some (.killed _) => true
    | _ => false
  { exitCode := if ends.isNone || isKilled then noExitCode else ((p.status % 256 : Nat) : Int)
    stdout := String.ofList (Local.drain output.written ends.isSome)
    stderr := String.ofList (Local.drain errors.written ends.isSome)
    duration := ends.getD p.budget
    timedOut := ends.isNone }

/-- What is said of a text with a zero character, which no program takes. -/
def zeroInArgument : String := "nul byte found in provided data"

/-- Launches a program with arguments. -/
def launch (h : Host) (program : Program) (arguments : List String) (budget : Nat) :
    Outcome × Tree :=
  match program with
  | .argumentPrinter =>
    ({ stdout := String.join (arguments.map fun a => s!"[{a}]\n") }, h.tree)
  | .shell =>
    let here := ((h.tree.find [] h.workingDirectory).toOption.map (·.1)).getD []
    let p := (h.process here budget).runAll (arguments.getLast?.getD "")
    (outcomeOf p, p.tree)

/-- Runs a command by way of the launcher. -/
def execute (h : Host) (command : String) (budget : Nat) : Except Error Outcome × Host :=
  let text := h.modules.script command
  if text.toList.contains '\x00' then (.error (.transport command zeroInArgument), h)
  else
    match h.programs.lookup h.launcher.program with
    | none => (.error (.transport command Trouble.absent.message), h)
    | some program =>
      let (outcome, tree) := h.launch program (h.launcher.arguments ++ [text]) budget
      (.ok outcome, { h with tree })

/-- A trouble as a failure of the session. -/
def failure (t : Trouble) : Error := .io t.message

/-- A result of the files as one of the session. -/
def ofFiles {α : Type} (r : Except Trouble α) : Except Error α := r.mapError failure

/-- A question about a file, which is answered with no if the file is not there. -/
def orAbsent (r : Except Trouble Bool) : Except Error Bool :=
  match r with
  | .error .absent => .ok false
  | r => ofFiles r

/-- What can be read from a path: a directory can be opened, but fails then. -/
def open? (h : Host) (path : String) : Except Trouble Delivery := do
  match (← h.tree.find [] path).2 with
  | .file _ content => .ok ⟨content, none⟩
  | _ => .ok ⟨[], some Trouble.isDirectory.message⟩

/-- Makes a module available, which only a PowerShell can do. -/
def loadModule (h : Host) (name source : String) : Except Error Unit × Host :=
  if h.launcher.isPowerShell then (.ok (), { h with modules := h.modules.load name source })
  else
    (.error (.invalidArgument s!"{h.launcher.program} cannot load PowerShell module {name}"), h)

/-- The answer to a call. -/
def answerCall (h : Host) : (c : HostCall) → Except Error c.Value × Host
  | .tempDir => (.ok h.tempDir, h)
  | .loadModule name source => h.loadModule name source
  | .execute command budget => h.execute command budget
  | .isPresent path _ => (orAbsent ((h.tree.find [] path).map fun _ => true), h)
  | .length path _ => (ofFiles ((h.tree.find [] path).map fun f => Tree.sizeOf f.2), h)
  | .isDirectory path _ => (orAbsent ((h.tree.find [] path).map fun f => f.2.isDirectory), h)
  | .read path _ => (ofFiles (h.open? path), h)
  | .delete path =>
    match h.tree.remove [] path with
    | .ok tree => (.ok (), { h with tree })
    | .error e => (.error (failure e), h)

/-- The answer to a request at home, which is on the machine itself. -/
def answerHome (h : Host) : (c : HomeCall) → c.Answer
  | .clock => h.clock
  | .note .. => ()
  | .watch .. => ()
  | .unwatch _ => ()
  | .readHere path => (h.tree.read [] path).mapError Trouble.message
  | .makeCopy _ => .ok ()
  | .dropCopy => ()

/-- The answer to a request. -/
def answer : (q : Request) → StateM Host q.Reply
  | .host c => fun h => h.answerCall c
  | .home c => fun h => (h.answerHome c, h)

end Host

end RemoteSearch.Machine

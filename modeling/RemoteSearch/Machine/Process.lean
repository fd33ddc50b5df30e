import RemoteSearch.Machine.Script
import RemoteSearch.Machine.Tree
import RemoteSearch.Text.Utf8

/-!
# Running processes

What a shell has done so far: the files as they are now, where its descriptors lead, its variables,
how the last command ended, and how much time has gone by. Nothing takes time but sleeping, and
waiting for what others write. Bytes carry the time at which they were written, so that shells which
run side by side can be run one after another.
-/

namespace RemoteSearch.Machine

open Text

/-! ## Streams -/

/-- Bytes with the time at which they were written, and the job that wrote them. -/
structure Chunk where
  time : Nat
  writer : Nat
  bytes : List UInt8
  deriving Repr, DecidableEq, Inhabited

/-- Where bytes to be read come from. -/
inductive Origin where
  /-- What was taken cannot be given back. -/
  | pipe
  | file
  deriving Repr, DecidableEq, Inhabited

/-- What a descriptor leads to. Times are missing where there is not enough time. -/
inductive Stream where
  /-- What something reads: latest chunks first, and the times until which jobs hold it. -/
  | sink (chunks : List Chunk) (holders : List (Nat × Option Nat))
  /-- What can be read: earliest chunks first, and the time at which the end is known. -/
  | source (chunks : List Chunk) (ends : Option Nat) (origin : Origin)
  /-- A file that is written, at an offset or at its end. -/
  | file (place : Place) (offset : Nat) (appends : Bool)
  /-- Takes everything and gives nothing. -/
  | nothing
  deriving Repr, DecidableEq, Inhabited

/-- The later of two times. -/
def later : Option Nat → Option Nat → Option Nat
  | some a, some b => some (max a b)
  | _, _ => none

namespace Stream

/-- Held by a job until some time, or longer. -/
def hold (job : Nat) (time : Option Nat) : Stream → Stream
  | sink chunks holders =>
    let before := (holders.lookup job).getD (some 0)
    sink chunks ((job, later before time) :: holders.filter (·.1 != job))
  | s => s

/-- The time at which no one holds it any more. -/
def ends : Stream → Option Nat
  | sink _ holders => holders.foldl (fun t h => later t h.2) (some 0)
  | source _ ends _ => ends
  | _ => some 0

/-- What has been written, in the order of the times. -/
def chunks : Stream → List Chunk
  | sink chunks _ => chunks.reverse.mergeSort fun a b => decide (a.time ≤ b.time)
  | source chunks _ _ => chunks
  | _ => []

/-- The bytes that have been written. -/
def written (s : Stream) : List UInt8 := s.chunks.flatMap Chunk.bytes

/-- What was written, to be read. -/
def reversed (s : Stream) : Stream := source s.chunks s.ends .pipe

/-- Without what a job does after some time. -/
def withoutJob (job time : Nat) : Stream → Stream
  | sink chunks holders =>
    sink (chunks.filter fun c => c.writer != job || c.time ≤ time)
      (holders.map fun h => if h.1 = job then (job, some (min time (h.2.getD time))) else h)
  | s => s

end Stream

/-! ## Shells -/

/-- Why a shell does not go on. -/
inductive Halt where
  | exited
  | killed (signal : Nat)
  /-- Its time is up. -/
  | expired
  /-- A number of loops is left. -/
  | left (loops : Nat)
  /-- A loop goes on with its next round, after a number of loops in it are left. -/
  | skipped (loops : Nat)
  | returned
  deriving Repr, DecidableEq, Inhabited

/-- A shell that is not waited for. -/
structure Job where
  number : Nat
  ends : Option Nat
  status : Nat
  /-- The signal that has ended it. -/
  signal : Option Nat := none
  /-- Whether one command is all that it runs. -/
  simple : Bool
  deriving Repr, DecidableEq, Inhabited

/-- What a signal does when it comes: nothing, or a text that runs. -/
abbrev Traps : Type := List (String × String)

/-- A shell at work. -/
structure Process where
  tree : Tree
  /-- The directory that paths are taken from. -/
  here : Place
  /-- The path by which it was reached. -/
  directory : String := "/"
  /-- The name under which the shell was begun. -/
  name : String := "sh"
  number : Nat := 1
  /-- Variables with their values. -/
  bindings : List (String × String) := []
  /-- Variables that commands find set, and those that cannot change. -/
  exported : List String := []
  frozen : List String := []
  /-- The arguments of the script or function. -/
  arguments : List String := []
  functions : List (String × Script) := []
  /-- For each function that runs, what its own variables were before. -/
  saved : List (List (String × Option String)) := []
  /-- Letters of the options that are on. -/
  options : List Char := []
  traps : Traps := []
  /-- Signals that have come and are trapped. -/
  signals : List String := []
  jobs : List Job := []
  /-- The job that the shell belongs to. -/
  job : Nat := 0
  /-- The number for the next process. -/
  nextNumber : Nat := 2
  /-- Signals that other jobs send, with their times. -/
  posted : List (Nat × String) := []
  /-- What a complaint names before all else: the command that runs a text. -/
  caller : String := ""
  /-- Whether nothing follows in the shell, so that redirections last. -/
  lasting : Bool := false
  /-- The line of the command that runs. -/
  line : Nat := 1
  /-- Whether the status of what runs is being asked for. -/
  tested : Bool := false
  /-- The number of loops around what runs. -/
  loops : Nat := 0
  /-- The exit status of the last command. -/
  status : Nat := 0
  /-- The status of the last command that took its place in a word. -/
  substitution : Option Nat := none
  halt : Option Halt := none
  /-- The time that has gone by, and the time that there is, in milliseconds. -/
  elapsed : Nat := 0
  budget : Nat
  streams : Array Stream := #[]
  /-- Where descriptors lead, by the places of streams. -/
  table : List (Nat × Nat) := []
  deriving Inhabited

namespace Process

/-! ### Time -/

/-- Ends the shell. -/
def stop (p : Process) (status : Nat) (halt : Halt) : Process :=
  { p with status, halt := some halt }

/-- The time is up. -/
def expire (p : Process) : Process := { p with elapsed := p.budget, halt := some .expired }

/-- Lets time go by, up to the end of the time that there is. -/
def sleep (p : Process) (time : Nat) : Process :=
  if p.budget < p.elapsed + time then p.expire else { p with elapsed := p.elapsed + time }

/-- Waits for some time to come. -/
def waitFor (p : Process) : Option Nat → Process
  | some t => p.sleep (t - p.elapsed)
  | none => p.expire

/-- The time until which the shell runs, if there is enough. -/
def ends (p : Process) : Option Nat := if p.halt = some .expired then none else some p.elapsed

/-! ### Descriptors -/

/-- The stream that a descriptor leads to. -/
def stream? (p : Process) (descriptor : Nat) : Option Stream :=
  (p.table.lookup descriptor).bind fun k => p.streams[k]?

/-- Changes a stream. -/
def setStream (p : Process) (k : Nat) (s : Stream) : Process :=
  { p with streams := p.streams.setIfInBounds k s }

/-- Lets a descriptor lead to a stream, or nowhere. -/
def point (p : Process) (descriptor : Nat) (k : Option Nat) : Process :=
  let table := p.table.filter (·.1 != descriptor)
  { p with table := match k with | some k => (descriptor, k) :: table | none => table }

/-- Lets a descriptor lead to a new stream. -/
def openStream (p : Process) (descriptor : Nat) (s : Stream) : Process :=
  { p with streams := p.streams.push s }.point descriptor (some p.streams.size)

/-- Bytes with others written over them from an offset on. -/
def overwrite (old : List UInt8) (offset : Nat) (bytes : List UInt8) : List UInt8 :=
  old.take offset ++ List.replicate (offset - old.length) 0 ++ bytes ++
    old.drop (offset + bytes.length)

/-- Writes bytes to a descriptor, unless it leads nowhere. -/
def emitTo (p : Process) (descriptor : Nat) (bytes : List UInt8) : Process :=
  match p.table.lookup descriptor with
  | none => p
  | some k =>
    match p.streams[k]? with
    | some (.sink chunks holders) =>
      if bytes.isEmpty then p
      else p.setStream k (.sink (⟨p.elapsed, p.job, bytes⟩ :: chunks) holders)
    | some (.file place offset appends) =>
      match p.tree.entry? place with
      | some (.file mode old) =>
        let offset := if appends then old.length else offset
        let tree := p.tree.put place (.file mode (overwrite old offset bytes))
        { p with tree }.setStream k (.file place (offset + bytes.length) appends)
      | _ => p
    | _ => p

/-- Writes bytes to the output. -/
def emit (p : Process) (bytes : List UInt8) : Process := p.emitTo 1 bytes

/-- Writes text to the output. -/
def print (p : Process) (text : String) : Process := p.emit (Utf8.encodeString text)

/-- Writes text to the output for errors. -/
def complain (p : Process) (text : String) : Process := p.emitTo 2 (Utf8.encodeString text)

/-- A command complains of something on its line. -/
def warnAs (p : Process) (command text : String) : Process :=
  p.complain s!"{p.name}: {p.line}: {command}: {text}\n"

/-- The shell complains of something on its line. -/
def warn (p : Process) (text : String) : Process :=
  if p.caller.isEmpty then p.complain s!"{p.name}: {p.line}: {text}\n" else p.warnAs p.caller text

/-- Ends a command with a status. -/
def finish (p : Process) (status : Nat) : Process := { p with status }

/-- The shell complains and ends. -/
def fail (p : Process) (text : String) : Process := (p.warn text).stop 2 .exited

/-- A command complains, and the shell ends. -/
def failAs (p : Process) (command text : String) : Process :=
  (p.warnAs command text).stop 2 .exited

/-! ### Input -/

/-- All that can still be read, in chunks, and the time at which the end is known. -/
def takeChunks (p : Process) : List Chunk × Option Nat × Process :=
  match p.table.lookup 0 with
  | none => ([], some 0, p)
  | some k =>
    match p.streams[k]? with
    | some (.source chunks ends origin) => (chunks, ends, p.setStream k (.source [] ends origin))
    | _ => ([], some 0, p)

/-- All that can still be read, after waiting for its end. -/
def takeInput (p : Process) : List UInt8 × Process :=
  let (chunks, ends, p) := p.takeChunks
  (chunks.flatMap Chunk.bytes, p.waitFor ends)

/-- A line of some chunks without its line feed, the time of its end, and the chunks after it. -/
def cutChunks (line : List UInt8) : List Chunk → Option (List UInt8 × Nat × List Chunk)
  | [] => none
  | c :: r =>
    match c.bytes.dropWhile (· != 10) with
    | [] => cutChunks (line ++ c.bytes) r
    | _ :: rest =>
      let rest := if rest.isEmpty then r else { c with bytes := rest } :: r
      some (line ++ c.bytes.takeWhile (· != 10), c.time, rest)

/-- The next line of the input, and whether it ends with a line feed. -/
def takeLine (p : Process) : List UInt8 × Bool × Process :=
  match p.table.lookup 0 with
  | none => ([], false, p)
  | some k =>
    match p.streams[k]? with
    | some (.source chunks ends origin) =>
      match cutChunks [] chunks with
      | some (line, time, rest) =>
        (line, true, (p.setStream k (.source rest ends origin)).waitFor (some time))
      | none =>
        (chunks.flatMap Chunk.bytes, false, (p.setStream k (.source [] ends origin)).waitFor ends)
    | _ => ([], false, p)

/--
The bytes up to the last one of a number of bytes that count, and those after it, and how many are
still missing; `taken` are those before, latest first.
-/
def cutCounted (counts : UInt8 → Bool) :
    Nat → List UInt8 → List UInt8 → List UInt8 × List UInt8 × Nat
  | 0, taken, l => (taken.reverse, l, 0)
  | n + 1, taken, [] => (taken.reverse, [], n + 1)
  | n + 1, taken, b :: r => cutCounted counts (if counts b then n else n + 1) (b :: taken) r

/-- The chunks that hold a number of bytes that count, the time of the last one, and the others. -/
def countedChunks (counts : UInt8 → Bool) (n : Nat) (time : Option Nat) :
    List Chunk → List (List UInt8) × Option Nat × List Chunk
  | [] => ([], time, [])
  | c :: r =>
    let (taken, left, missing) := cutCounted counts n [] c.bytes
    if missing = 0 then ([taken], some c.time, { c with bytes := left } :: r)
    else
      let (more, time, rest) := countedChunks counts missing time r
      (taken :: more, time, rest)

/--
The input up to the last one of a number of bytes that count. What comes after it stays in a file;
a pipe has lost what was written with it.
-/
def takeCounted (counts : UInt8 → Bool) (n : Nat) (p : Process) : List UInt8 × Process :=
  match p.table.lookup 0 with
  | none => ([], p)
  | some k =>
    match p.streams[k]? with
    | some (.source chunks ends origin) =>
      if n = 0 then ([], p)
      else
        let (taken, time, rest) := countedChunks counts n ends chunks
        let rest := if origin = .file then rest else rest.tail
        (taken.flatten, (p.setStream k (.source rest ends origin)).waitFor time)
    | _ => ([], p)

/-! ### Variables -/

/-- The value of a variable, if it has one. -/
def value? (p : Process) (name : String) : Option String := p.bindings.lookup name

/-- The value of a variable, empty if it has none. -/
def value (p : Process) (name : String) : String := (p.value? name).getD ""

/-- Whether an option is on. -/
def hasOption (p : Process) (letter : Char) : Bool := p.options.contains letter

/-- Gives a variable a value. -/
def assign (p : Process) (name value : String) : Process :=
  { p with
    bindings := (name, value) :: p.bindings.filter (·.1 != name)
    exported :=
      if p.hasOption 'a' && !p.exported.contains name then name :: p.exported else p.exported }

/-- Gives a variable a value, or complains and ends if it cannot change. -/
def assignChecked (p : Process) (name value : String) : Process :=
  if p.frozen.contains name then p.fail s!"{name}: is read only" else p.assign name value

/-- Takes the value of a variable away. -/
def unassign (p : Process) (name : String) : Process :=
  { p with
    bindings := p.bindings.filter (·.1 != name), exported := p.exported.filter (· != name) }

/-- Gives a variable back the value that it had. -/
def restore (p : Process) (old : String × Option String) : Process :=
  match old.2 with
  | some v => p.assign old.1 v
  | none => { p with bindings := p.bindings.filter (·.1 != old.1) }

/-! ### Shells in shells -/

/-- Runs something, unless the shell has ended. -/
def ifRunning (body : Process → Process) (p : Process) : Process :=
  if p.halt.isSome then p else body p

/-- The streams to which descriptors lead are held by the shell until its end. -/
def release (p : Process) : Process :=
  p.table.foldl
    (fun p d =>
      match p.streams[d.2]? with
      | some s => p.setStream d.2 (s.hold p.job p.ends)
      | none => p)
    p

/-- A shell of its own, as it begins. -/
def branch (p : Process) : Process :=
  { p with traps := p.traps.filter (·.2.isEmpty), jobs := [], lasting := true }

/-- What a shell has in common with one that it began: the files, what was written, and numbers. -/
def shareWith (p inner : Process) : Process :=
  { p with
    tree := inner.tree, streams := inner.streams.take p.streams.size
    nextNumber := inner.nextNumber, posted := inner.posted }

/-- Goes on after a shell that was waited for, whose time was up or not. -/
def joinShell (p inner : Process) : Process :=
  let joined := (p.shareWith inner).waitFor inner.ends
  match inner.halt with
  | some (.killed s) => joined.stop inner.status (.killed s)
  | _ => joined.finish inner.status

end Process

end RemoteSearch.Machine

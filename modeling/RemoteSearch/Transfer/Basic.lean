import RemoteSearch.Session.Execution
import RemoteSearch.Transfer.Config
import RemoteSearch.Transfer.Lines
import RemoteSearch.Transfer.Stamp
import RemoteSearch.Session.Basic

/-!
# Transfer of output

Output that may be large takes a way of its own. The command writes into a new temporary file on
the host, which is watched while it grows, compressed in place, and read: where it lies if the host
is this machine, and else from a local copy.

Every file is recorded before it can come into being, and stays recorded until it is certain that
it is gone. So the cleanup at the end finds whatever is left, however far the transfer came.
-/

namespace RemoteSearch.Transfer

/-- What a transfer keeps track of: the last stamp, and the files that there may be. -/
structure Trail where
  lastStamp : Nat := 0
  /-- The file that the command writes. -/
  raw : Option String := none
  /-- The compressed file in its place. -/
  compressed : Option String := none
  /-- Whether there is a local copy. -/
  copied : Bool := false
  deriving Repr, DecidableEq, Inhabited

/-- The files on the host that there may be. -/
def Trail.files (t : Trail) : List String := t.raw.toList ++ t.compressed.toList

/-- The trail at the start of a transfer. -/
def Trail.fresh (lastStamp : Nat) : Trail := { lastStamp }

/-- Everything that a transfer depends on. -/
structure Route where
  session : Session
  shell : Shell
  budgets : Budgets
  config : Config

/-- A directory with a delimiter at its end. -/
def closeDirectory (d : Char) (directory : String) : String :=
  if directory.toList.getLast? = some d then directory else directory.push d

/-- The name of the file that output goes to. -/
def rawName (directory name : String) (stamp : Nat) : String := s!"{directory}{name}.{stamp}.out"

/-- The name of the compressed file. -/
def compressedName (raw : String) : String := raw ++ ".gz"

/-- The next stamp. -/
def takeStamp : Action Trail Nat := do
  let now ← Action.home .clock
  let trail ← get
  let stamp := nextStamp trail.lastStamp now
  modify fun t => { t with lastStamp := stamp }
  pure stamp

/-- Runs a command with its output sent to a new file on the host, for the path of the file. -/
def capture (r : Route) (command : String) : Action Trail String := do
  let directory ← Action.call .tempDir
  let stamp ← takeStamp
  let raw := rawName (closeDirectory r.session.delimiter directory) r.config.tempName stamp
  modify fun t => { t with raw := some raw }
  Action.home (.watch raw r.config.watchInterval)
  let ran ← (Execution.runInto r.budgets r.shell command raw .extraLong).result
  Action.home (.unwatch r.config.watchJoin)
  Action.ofResult ran
  pure raw

/-- The directory for a local copy, if one is named. -/
def copyDirectory (r : Route) : Option String := r.config.workspace.or r.session.workspace

/-- The bytes of a compressed file on the host, by way of a local copy. -/
def copyHere (r : Route) (compressed : String) : Action Trail (List UInt8) := do
  let made ← Action.home (.makeCopy (copyDirectory r))
  Action.ofResult made
  modify fun t => { t with copied := true }
  let content ← Action.call (.read compressed .readOnly)
  match content.failure with
  | some reason => throw (.transport compressed reason)
  | none => pure content.bytes

/-- The bytes of a compressed file that lies at home. -/
def readHere (compressed : String) : Action Trail (List UInt8) := do
  match ← Action.home (.readHere compressed) with
  | .ok bytes => pure bytes
  | .error reason => throw (.transport compressed reason)

/-- Compresses a captured file, and reads the result. -/
def fetch (r : Route) (raw : String) : Action Trail (List UInt8) := do
  let compressed := compressedName raw
  let command := r.shell.compress raw
  modify fun t => { t with compressed := some compressed }
  let _ ← Execution.run r.budgets command .medium
  -- only a compressed file that can be seen proves that the raw one is gone
  if ← Action.call (.isPresent compressed .readVolatile) then
    modify fun t => { t with raw := none }
    if r.session.isLocal then readHere compressed else copyHere r compressed
  else
    throw (.transport command "compressed output missing")

/-- Removes a file on the host, unless it is known to be gone. -/
def discard (path : String) : Action Trail Unit := do
  match ← (Action.call (.isPresent path .readVolatile)).result with
  | .ok false => pure ()
  | _ =>
    let _ ← (Action.call (.delete path)).result
    pure ()

/-- Removes whatever a transfer has left. -/
def cleanUp : Action Trail Unit := do
  let trail ← get
  trail.files.forM discard
  if trail.copied then Action.home .dropCopy

/--
Runs a command, brings home what it writes, and cleans up. When the command has run but its output
is lost on the way, the result is the reason for that.
-/
def bring (r : Route) (command : String) : Action Trail (Except Error (List UInt8)) := do
  let brought ← (do
    let raw ← capture r command
    (fetch r raw).result : Action Trail (Except Error (List UInt8))).result
  cleanUp
  Action.ofResult brought

end RemoteSearch.Transfer

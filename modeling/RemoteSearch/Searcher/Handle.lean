import RemoteSearch.Searcher.Memory
import RemoteSearch.Searcher.Setup

/-!
# Handles

References to files on a host. A handle that a search gives carries the record that was found. All
others look their file up when its record is first asked for; whether they remember it then is for
their mode to say.
-/

namespace RemoteSearch.Searcher

open Calendar (Instant)

/-- Loads the helper module, unless the platform has none or it is loaded already. -/
def prepare (s : Setup) : Action Memory Unit := do
  match s.platform.helper? with
  | none => pure ()
  | some (name, source) =>
    let memory ← get
    if !memory.helperLoaded then
      Action.call (.loadModule name source)
      modify fun m => { m with helperLoaded := true }

/-- What the clock shows. -/
def readClock : Action Memory Instant := do
  let now ← Action.home .clock
  pure (.ofMillis now)

/-- A file on a host. -/
structure Handle where
  host : String
  path : String
  mode : AccessMode
  /-- The place of its record. -/
  place : Nat
  deriving Repr, DecidableEq, Inhabited

namespace Handle

/-- Whether two handles are about the same file: its path and its host count, nothing else. -/
def sameFile (a b : Handle) : Bool := a.path == b.path && a.host == b.host

/-- A handle for a path, with its record if that is known. -/
def make (s : Setup) (path : String) (mode : AccessMode) (record : Option Metadata) :
    Action Memory Handle := do
  let memory ← get
  modify fun m => { m with records := m.records.push record }
  pure ⟨s.session.hostname, path, mode, memory.records.size⟩

/-- The record of a handle as far as it is remembered. -/
def remembered (h : Handle) : Action Memory (Option Metadata) := do
  let memory ← get
  pure (memory.record? h.place)

/-- Looks a file up on its host. -/
def lookUp (s : Setup) (h : Handle) : Action Memory Metadata := do
  prepare s
  let output ← Execution.run s.budgets (s.platform.statCommand h.path) .short
  let now ← readClock
  match s.platform.readRecord now (Text.lines output) with
  | some (.ok record, _) => pure record
  | some (.error e, _) => throw (.record e)
  | none => throw (.search (.notFound h.path))

/-- The record of a handle. -/
def metadata (s : Setup) (h : Handle) : Action Memory Metadata := do
  if h.mode.remembers then
    match ← h.remembered with
    | some record => pure record
    | none =>
      let record ← h.lookUp s
      modify fun m => m.setRecord h.place record
      pure record
  else
    h.lookUp s

/-- Whether there is such a file. -/
def isPresent (h : Handle) : Action Memory Bool := Action.call (.isPresent h.path h.mode)

/-- Whether the file is a directory. -/
def isDirectory (h : Handle) : Action Memory Bool := Action.call (.isDirectory h.path h.mode)

/-- The number of bytes of the file. -/
def length (h : Handle) : Action Memory Nat := Action.call (.length h.path h.mode)

/-- The bytes of the file. -/
def read (h : Handle) : Action Memory Delivery := Action.call (.read h.path h.mode)

/-- The refusal to change a file in a mode that does not allow it. -/
def notWritable (h : Handle) : Error :=
  .invalidArgument s!"{h.path} is not writable in {h.mode.name} mode"

/-- Deletes the file, if the mode of the handle allows it. -/
def delete (h : Handle) : Action Memory Unit := do
  if h.mode.isWritable then Action.call (.delete h.path) else throw h.notWritable

end Handle

end RemoteSearch.Searcher

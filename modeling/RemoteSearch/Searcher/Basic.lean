import RemoteSearch.Searcher.Findings
import RemoteSearch.Searcher.Handle

/-!
# The searcher

Runs searches on one host, and remembers what they found.

A search is checked before anything reaches the host, answered from the cache if it can be, and
given up without a result if it cannot find anything. Once its command has run, nothing that goes
wrong with the output is an error: the records that could be read are the result, which is then not
remembered.
-/

namespace RemoteSearch.Searcher

/-- The mount table of the host, which is listed once. -/
def mounts (s : Setup) : Action Memory (List Mount) := do
  let memory ← get
  match memory.mounts with
  | some l => pure l
  | none =>
    let output ← Execution.run s.budgets s.platform.mountCommand .short
    let l := s.platform.readMounts output
    modify fun m => { m with mounts := some l }
    pure l

/-- The mounts whose type a pattern is found in, or those in which it is not. -/
def mountsMatching (s : Setup) (pattern : Regex) (wanted : Bool) : Action Memory (List Mount) := do
  let l ← mounts s
  pure (l.filter fun m => pattern.found m.fsType == wanted)

/-- Whether a search can find anything on filesystems of the type that it asks for. -/
def isAdmitted (s : Setup) (q : Query) (root : String) : Action Memory Bool := do
  match q.fsType with
  | none => pure true
  | some fsType =>
    let l ← mounts s
    pure (s.platform.admits l root fsType)

/-- Runs the command of a search, for what is found in its output. -/
def gather (s : Setup) (command : String) : Action Memory Findings := do
  modify fun m => m.count fun c => { c with executions := c.executions + 1 }
  let brought ← (Action.onPart (fun m => .fresh m.lastStamp)
    (fun t m => { m with lastStamp := t.lastStamp }) (Transfer.bring s.route command)).result
  modify fun m => m.count fun c => { c with cleanups := c.cleanups + 1 }
  -- from here on the command has run, and whatever goes wrong only makes the result smaller
  let content ← Action.ofResult brought
  match content with
  | .error _ => pure {}
  | .ok file =>
    let now ← readClock
    pure (.ofFile s.platform now file)

/-- Runs a compiled search on the host, and remembers what it found if nothing was lost. -/
def runSearch (s : Setup) (compiled : Compiled) : Action Memory (List Handle) := do
  prepare s
  let findings ← gather s compiled.command
  modify fun m => m.count fun c => { c with skippedRecords := c.skippedRecords + findings.skipped }
  if findings.complete then
    modify fun m => { m with cache := m.cache.store compiled.cacheKey findings.paths }
  findings.records.mapM fun record => Handle.make s record.path .readOnly (some record)

/-- The handles for remembered paths. -/
def fromCache (s : Setup) (paths : List String) : Action Memory (List Handle) := do
  modify fun m => m.count fun c => { c with cacheHits := c.cacheHits + 1 }
  paths.mapM fun path => Handle.make s path .readOnly none

/-- The objects that a list of conditions asks for, in the order in which the host found them. -/
def search (s : Setup) (conditions : List Condition) : Action Memory (List Handle) := do
  let query ← Action.ofResult (Query.ofConditions conditions)
  let root := query.normalizedRoot s.platform.delimiter
  if ← isAdmitted s query root then
    let compiled ← Action.ofResult (s.platform.compile query)
    let memory ← get
    match memory.cache.lookup? compiled.cacheKey with
    | some paths => fromCache s paths
    | none =>
      if ← Action.call (.isDirectory root .readOnly) then runSearch s compiled else pure []
  else
    pure []

/-- The paths remembered under a key. -/
def cached (key : String) : Action Memory (List String) := do
  let memory ← get
  Action.ofResult (memory.cache.get key)

end RemoteSearch.Searcher

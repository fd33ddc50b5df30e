/-!
# Errors

What can go wrong, by cause. The wording of each cause is in one function for its type, and only
callers that show an error to a person need it.
-/

namespace RemoteSearch

/-- A search that is refused before anything runs, or a key that nothing is stored under. -/
inductive SearchError where
  | invalidArgument (message : String)
  | unsupported (flavor message : String)
  | notFound (key : String)
  deriving Repr, DecidableEq, Inhabited

/-- A command that did not come to its end; the elapsed time is in microseconds. -/
inductive ExecError where
  | timeout (command : String) (elapsed : Nat) (partialOutput : String)
  | transport (command message : String)
  deriving Repr, DecidableEq, Inhabited

/-- A record that cannot be decoded. -/
inductive RecordError where
  | malformed (line reason : String)
  | truncated (reason : String)
  deriving Repr, DecidableEq, Inhabited

/-- Any failure of the library. -/
inductive Error where
  | search (e : SearchError)
  | exec (e : ExecError)
  | record (e : RecordError)
  /-- The settings cannot be read. -/
  | config
  | io (message : String)
  | generic (message : String)
  deriving Repr, DecidableEq, Inhabited

namespace SearchError

/-- The wording of the cause. -/
def message : SearchError → String
  | invalidArgument m => s!"Invalid argument: {m}"
  | unsupported f m => s!"Unsupported condition for {f}: {m}"
  | notFound k => s!"Not found: {k}"

end SearchError

namespace ExecError

/-- The wording of the cause; times are shown in whole milliseconds. -/
def message : ExecError → String
  | timeout c t _ => s!"Command timed out after {t / 1000}ms: {c}"
  | transport c m => s!"Transport failure running '{c}': {m}"

end ExecError

namespace RecordError

/-- The wording of the cause. -/
def message : RecordError → String
  | malformed l r => s!"Malformed record '{l}': {r}"
  | truncated r => s!"Truncated record: {r}"

end RecordError

namespace Error

/-- The wording of the cause. -/
def message : Error → String
  | search e => s!"Search error: {e.message}"
  | exec e => s!"Execution error: {e.message}"
  | record e => s!"Parse error: {e.message}"
  | config => "Configuration error: Failed to load settings"
  | io m => s!"IO error: {m}"
  | generic m => m

/-- A refusal of an argument. -/
def invalidArgument (m : String) : Error := .search (.invalidArgument m)

/-- A failure of the way to the host. -/
def transport (command message : String) : Error := .exec (.transport command message)

/-- Whether a command ran out of its budget. -/
def isTimeout : Error → Bool
  | exec (.timeout ..) => true
  | _ => false

/-- Whether a condition was refused for the flavor. -/
def isUnsupported : Error → Bool
  | search (.unsupported ..) => true
  | _ => false

/-- Whether nothing is stored under a key. -/
def isNotFound : Error → Bool
  | search (.notFound _) => true
  | _ => false

end Error

end RemoteSearch

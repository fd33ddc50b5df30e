import RemoteSearch.AccessMode
import RemoteSearch.Delivery
import RemoteSearch.Dialogue
import RemoteSearch.Error

/-!
# Requests

What the library asks of the outside. Calls go to the host through its session; they can fail, and
then say why. Requests at home go to the machine that the library runs on. All times are in
milliseconds.
-/

namespace RemoteSearch

/-- How a command ended. -/
structure Outcome where
  exitCode : Int := 0
  stdout : String := ""
  stderr : String := ""
  /-- How long it ran. -/
  duration : Nat := 0
  /-- Whether it was given up; the output is then what had arrived. -/
  timedOut : Bool := false
  deriving Repr, DecidableEq, Inhabited

/-- A call on the session of a host. -/
inductive HostCall where
  /-- Where temporary files go. -/
  | tempDir
  /-- Makes a module available to all later commands. -/
  | loadModule (name source : String)
  /-- Runs a command, giving up after some time. -/
  | execute (command : String) (budget : Nat)
  | isPresent (path : String) (mode : AccessMode)
  | length (path : String) (mode : AccessMode)
  | isDirectory (path : String) (mode : AccessMode)
  /-- Opens a file for reading. -/
  | read (path : String) (mode : AccessMode)
  | delete (path : String)
  deriving Repr, DecidableEq, Inhabited

/-- What a call gives if it succeeds. -/
@[reducible] def HostCall.Value : HostCall → Type
  | tempDir => String
  | loadModule .. => Unit
  | execute .. => Outcome
  | isPresent .. => Bool
  | length .. => Nat
  | isDirectory .. => Bool
  | read .. => Delivery
  | delete _ => Unit

/-- A request at home. -/
inductive HomeCall where
  /-- The time since the start of 1970. -/
  | clock
  /-- Writes a line into the log: what happened, and the text it is about. -/
  | note (event text : String)
  /-- Starts to watch the growth of a file on the host, once every interval. -/
  | watch (path : String) (interval : Nat)
  /-- Ends the watching, waiting for it no longer than a limit. -/
  | unwatch (limit : Nat)
  /-- Reads a file that is at home already. -/
  | readHere (path : String)
  /-- Makes an empty file for a copy, in a directory or in the usual one. -/
  | makeCopy (directory : Option String)
  /-- Removes the file of the copy. -/
  | dropCopy
  deriving Repr, DecidableEq, Inhabited

/-- What a request at home gives. -/
@[reducible] def HomeCall.Answer : HomeCall → Type
  | clock => Int
  | note .. => Unit
  | watch .. => Unit
  | unwatch _ => Unit
  | readHere _ => Except String (List UInt8)
  | makeCopy _ => Except Error Unit
  | dropCopy => Unit

/-- A request to the outside. -/
inductive Request where
  | host (call : HostCall)
  | home (call : HomeCall)
  deriving Repr, DecidableEq, Inhabited

/-- What a request is answered with. -/
@[reducible] def Request.Reply : Request → Type
  | host c => Except Error c.Value
  | home c => c.Answer

/-- A dialogue with the outside. -/
abbrev Talk : Type → Type := Dialogue Request.Reply

/-- One request, and what it is answered with. -/
@[reducible] def request (q : Request) : Talk q.Reply := Dialogue.question q

/-- Calls on the host among the requests of an exchange, in order. -/
def hostCalls (t : List (Dialogue.Exchange Request.Reply)) : List HostCall :=
  t.filterMap fun e =>
    match e.1 with
    | .host c => some c
    | .home _ => none

end RemoteSearch

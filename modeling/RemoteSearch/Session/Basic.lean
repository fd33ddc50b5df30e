/-!
# Sessions

What is known about a session before anything is asked of it.
-/

namespace RemoteSearch

/-- An open session with a host. -/
structure Session where
  hostname : String
  /-- The delimiter of paths on the host. -/
  delimiter : Char
  /-- The local directory for copies that comes with the session. -/
  workspace : Option String := none
  deriving Repr, DecidableEq, Inhabited

namespace Session

/-- The name of the machine that the library runs on. -/
def localName : String := "localhost"

/-- Whether the host is the machine that the library runs on. -/
def isLocal (s : Session) : Bool := s.hostname == localName

end Session

end RemoteSearch

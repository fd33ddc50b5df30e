/-!
# Modes of access
-/

namespace RemoteSearch

/-- How a file on a host is used. -/
inductive AccessMode where
  | readOnly
  | readWrite
  /-- Reading past anything remembered on the way. -/
  | readVolatile
  /-- Reading without remembering anything. -/
  | noCache
  deriving Repr, DecidableEq, Inhabited

namespace AccessMode

/-- The name of the mode in messages. -/
def name : AccessMode → String
  | readOnly => "ReadOnly"
  | readWrite => "ReadWrite"
  | readVolatile => "ReadVolatile"
  | noCache => "NoCache"

/-- Whether the file may be changed. -/
def isWritable : AccessMode → Bool
  | readWrite => true
  | _ => false

/-- Whether what is known about the file may be remembered. -/
def remembers : AccessMode → Bool
  | readOnly | readWrite => true
  | readVolatile | noCache => false

end AccessMode

end RemoteSearch

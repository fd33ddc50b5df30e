/-!
# Mounts
-/

namespace RemoteSearch

/-- A mount point and the type of the filesystem mounted there. -/
structure Mount where
  path : String
  fsType : String
  deriving Repr, DecidableEq, Inhabited

end RemoteSearch

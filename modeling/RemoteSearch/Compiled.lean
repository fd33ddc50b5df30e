import RemoteSearch.Text.Case.Upper

/-!
# Compiled searches
-/

namespace RemoteSearch

/-- A search in the language of its host, with the key under which its result is remembered. -/
structure Compiled where
  command : String
  cacheKey : String
  deriving Repr, DecidableEq, Inhabited

namespace Compiled

/-- A command with its key, which is in upper case if the shell takes commands in either case. -/
def ofCommand (command : String) (fold : Bool) : Compiled :=
  ⟨command, if fold then Text.Case.upper command else command⟩

end Compiled

end RemoteSearch

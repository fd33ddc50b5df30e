import RemoteSearch.Platform
import RemoteSearch.Transfer.Basic

/-!
# Setup of a searcher

Everything about a searcher that stays the same while it works.
-/

namespace RemoteSearch.Searcher

/-- What a searcher is made of. -/
structure Setup where
  session : Session
  platform : Platform
  budgets : Budgets := .standard
  transfer : Transfer.Config := {}

namespace Setup

/-- The searcher that settings give; `home` stands for a tilde in them. -/
def ofSettings (session : Session) (platform : Platform) (settings : Settings) (home : String) :
    Setup :=
  { session
    platform
    budgets := .ofSettings settings
    transfer := .ofSettings settings home }

/-- The way that output takes. -/
def route (s : Setup) : Transfer.Route := ⟨s.session, s.platform.shell, s.budgets, s.transfer⟩

end Setup

end RemoteSearch.Searcher

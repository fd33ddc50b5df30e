import RemoteSearch.Settings.Basic

/-!
# How transfers are set
-/

namespace RemoteSearch.Transfer

/-- How output is brought from a host; times are in milliseconds. -/
structure Config where
  /-- What the names of temporary files begin with. -/
  tempName : String := "find"
  watchInterval : Nat := 15000
  watchJoin : Nat := 2000
  /-- The local directory for copies. -/
  workspace : Option String := none
  deriving Repr, DecidableEq, Inhabited

namespace Config

/-- What settings give; `home` stands for a tilde. -/
def ofSettings (s : Settings) (home : String) : Config :=
  let standard : Config := {}
  { tempName := (s.word? "temp_prefix").getD standard.tempName
    watchInterval := (s.positive? "watchdog_interval").getD standard.watchInterval
    watchJoin := (s.nat? "watchdog_join_timeout").getD standard.watchJoin
    workspace := s.workspace? home }

end Config

end RemoteSearch.Transfer

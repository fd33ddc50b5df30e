/-!
# Stamps

Names of temporary files carry a stamp: the time in milliseconds, or the number after the last
stamp if the clock has not gone on since. No stamp comes twice.
-/

namespace RemoteSearch.Transfer

/-- The stamp after `last` when the clock shows `now`; a time before 1970 counts as its start. -/
def nextStamp (last : Nat) (now : Int) : Nat := max now.toNat (last + 1)

/-- A stamp is larger than the last one. -/
theorem lt_nextStamp (last : Nat) (now : Int) : last < nextStamp last now := by
  unfold nextStamp
  omega

end RemoteSearch.Transfer

/-!
# Case tables

A case mapping is written as rows of code points that are moved by one amount. Letters of the two
cases often alternate, so a row may take every second code point only.
-/

namespace RemoteSearch.Text.Case

/-- The code points `first, first + step, …, last`, each moved by `delta`. -/
structure Shift where
  first : Nat
  last : Nat
  step : Nat
  delta : Int
  deriving Repr, DecidableEq

/-- Whether the row moves `n`. -/
def Shift.covers (s : Shift) (n : Nat) : Bool :=
  s.first ≤ n && n ≤ s.last && (n - s.first) % s.step == 0

/-- The image of `n` in a table of rows; a code point that no row covers stays. -/
def shifted (rows : List Shift) (n : Nat) : Nat :=
  match rows.find? (·.covers n) with
  | some s => ((n : Int) + s.delta).toNat
  | none => n

end RemoteSearch.Text.Case

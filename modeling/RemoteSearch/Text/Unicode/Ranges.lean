/-!
# Sets of code points

Sets of characters as ranges of code points, in ascending order and with gaps between them. So two
sets are equal exactly when they are written alike, and the operations of sets need one pass.

Tables of such sets are written as text: ranges in hexadecimal with blanks between them. A stroke
and a number after a range mean that only every so many-th code point of it belongs to the set.

## Termination

`join` and `gapsFrom` recurse on the ranges, `ofText` goes through the text once.
-/

namespace RemoteSearch.Text.Unicode

/-- The largest code point. -/
def lastCode : Nat := 0x10FFFF

/-- A set of code points. -/
structure Ranges where
  /-- The first and the last code point of each range. -/
  pairs : List (Nat × Nat) := []
  deriving Repr, DecidableEq, Inhabited

namespace Ranges

/-- Membership of a code point. -/
def has (r : Ranges) (n : Nat) : Bool := r.pairs.any fun p => p.1 ≤ n && n ≤ p.2

/-- Whether a range comes before another one. -/
def before (p q : Nat × Nat) : Bool := decide (p.1 ≤ q.1)

/-- A range and those after it, joined where they overlap or touch. -/
def join (p : Nat × Nat) : List (Nat × Nat) → List (Nat × Nat)
  | [] => [p]
  | q :: r => if q.1 ≤ p.2 + 1 then join (p.1, max p.2 q.2) r else p :: join q r

/-- Ranges that begin in ascending order, joined where they overlap or touch. -/
def compact : List (Nat × Nat) → List (Nat × Nat)
  | [] => []
  | p :: r => join p r

/-- The set of what lies in any of some ranges. -/
def ofPairs (l : List (Nat × Nat)) : Ranges :=
  ⟨compact ((l.filter fun p => p.1 ≤ p.2).mergeSort before)⟩

/-- The set of some code points. -/
def ofCodes (l : List Nat) : Ranges := ofPairs (l.map fun n => (n, n))

/-- The code points of a range. -/
def between (first last : Nat) : Ranges := ofPairs [(first, last)]

/-- What either set has. -/
def union (a b : Ranges) : Ranges := ofPairs (a.pairs ++ b.pairs)

/-- What any set of a list has. -/
def unite (l : List Ranges) : Ranges := ofPairs (l.flatMap pairs)

/-- The gaps between ranges, from a code point on. -/
def gapsFrom (start : Nat) : List (Nat × Nat) → List (Nat × Nat)
  | [] => if start ≤ lastCode then [(start, lastCode)] else []
  | p :: r => if start < p.1 then (start, p.1 - 1) :: gapsFrom (p.2 + 1) r else gapsFrom (p.2 + 1) r

/-- What the set lacks. -/
def compl (a : Ranges) : Ranges := ⟨gapsFrom 0 a.pairs⟩

/-- What both sets have. -/
def inter (a b : Ranges) : Ranges := (a.compl.union b.compl).compl

/-- What only the first set has. -/
def diff (a b : Ranges) : Ranges := a.inter b.compl

/-- Whether no code point lies beyond ASCII. -/
def isAscii (a : Ranges) : Bool := a.pairs.all fun p => p.2 < 0x80

/-- How many code points the set has. -/
def size (a : Ranges) : Nat := a.pairs.foldl (fun n p => n + (p.2 + 1 - p.1)) 0

@[simp] theorem has_empty (n : Nat) : ({} : Ranges).has n = false := rfl

/-! ## Reading tables -/

/-- The value of a hexadecimal digit. -/
def hexDigit? (c : Char) : Option Nat :=
  if '0' ≤ c ∧ c ≤ '9' then some (c.toNat - 48)
  else if 'A' ≤ c ∧ c ≤ 'F' then some (c.toNat - 55)
  else none

/-- A reader of tables: what it has read, and the numbers of the range in hand. -/
structure Reader where
  done : List (Nat × Nat) := []
  first : Option Nat := none
  last : Option Nat := none
  number : Option Nat := none
  stride : Bool := false
  deriving Inhabited

namespace Reader

/-- Every `step`-th code point of a range, so many of them. -/
def everyNth (first step : Nat) (count : Nat) : List (Nat × Nat) :=
  (List.range count).map fun i => (first + step * i, first + step * i)

/-- Ends the range in hand. -/
def close (s : Reader) : Reader :=
  match s.first, s.last, s.number with
  | some a, some b, some k =>
    if s.stride then { done := (everyNth a k ((b - a) / max k 1 + 1)).reverse ++ s.done }
    else { done := s.done }
  | some a, none, some b => { done := (a, b) :: s.done }
  | none, none, some a => { done := (a, a) :: s.done }
  | _, _, _ => { done := s.done }

/-- Takes a character. -/
def step (s : Reader) (c : Char) : Reader :=
  match hexDigit? c with
  | some d => { s with number := some (16 * s.number.getD 0 + d) }
  | none =>
    if c == '-' then { s with first := s.number, number := none }
    else if c == '/' then { s with last := s.number, number := none, stride := true }
    else s.close

end Reader

/-- The set that a table gives. -/
def ofText (s : String) : Ranges := ofPairs ((s.toList.foldl Reader.step {}).close.done.reverse)

example : (ofText "41-43 61 100-104/2").pairs =
    [(0x41, 0x43), (0x61, 0x61), (0x100, 0x100), (0x102, 0x102), (0x104, 0x104)] := by cbv

end Ranges

end RemoteSearch.Text.Unicode

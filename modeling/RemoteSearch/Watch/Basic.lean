import RemoteSearch.Session.Request

/-!
# Watching a file grow

While a search runs, the size of its output is looked at from time to time. The watch only looks:
it asks whether the file is there and how long it is, and nothing else. It reports each size that
is larger than all before, and ends when the file is gone or cannot be looked at, or when it is
stopped, which it notices between two looks.
-/

namespace RemoteSearch.Watch

/-- What one look at the file shows. -/
inductive Look where
  | size (n : Nat)
  | gone
  | failed (message : String)
  deriving Repr, DecidableEq, Inhabited

/-- How a watch ends. -/
inductive Ending where
  | stopped
  | vanished
  | failed (message : String)
  deriving Repr, DecidableEq, Inhabited

/-- What the answers to the two questions show; the second is asked only if the file is there. -/
def Look.ofAnswers (present : Except Error Bool) (length : Except Error Nat) : Look :=
  match present with
  | .error e => failed e.message
  | .ok false => gone
  | .ok true =>
    match length with
    | .error e => failed e.message
    | .ok n => size n

/-- The size that a look shows. -/
def Look.size? : Look → Option Nat
  | size n => some n
  | _ => none

/-- The ending that a look brings about. -/
def Look.ending? : Look → Option Ending
  | size _ => none
  | gone => some .vanished
  | failed m => some (.failed m)

/-- Looks at a file. -/
def look (path : String) : Talk Look := do
  match ← request (.host (.isPresent path .readVolatile)) with
  | .ok true =>
    let length ← request (.host (.length path .readVolatile))
    pure (.ofAnswers (.ok true) length)
  | present => pure (.ofAnswers present (.ok 0))

/-- The sizes reported so far, latest first. -/
structure Progress where
  reports : List Nat := []
  deriving Repr, DecidableEq, Inhabited

namespace Progress

/-- The size reported last, zero before any. -/
def size (p : Progress) : Nat := p.reports.headD 0

/-- Reports a size, if it is larger than the last. -/
def report (p : Progress) (n : Nat) : Progress := if p.size < n then ⟨n :: p.reports⟩ else p

/-- The last report is the maximum of what it was before and the size. -/
theorem size_report (p : Progress) (n : Nat) : (p.report n).size = max p.size n := by
  unfold report
  split
  · simp only [size, List.headD_cons] at *
    omega
  · omega

end Progress

/-- Looks at a file so many times unless the watch ends before, and is stopped then. -/
def follow (path : String) : Nat → Progress → Talk (Ending × Progress)
  | 0, p => pure (.stopped, p)
  | n + 1, p => do
    match ← look path with
    | .size m => follow path n (p.report m)
    | .gone => pure (.vanished, p)
    | .failed message => pure (.failed message, p)

end RemoteSearch.Watch

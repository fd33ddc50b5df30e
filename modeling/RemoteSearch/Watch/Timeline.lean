import RemoteSearch.Watch.Basic

/-!
# The times of a watch

When looks happen, in milliseconds since the watch began. The first is due after one interval. A
look begins when it is due and the one before has ended. After a look that began on time the next
is due one interval after it was due itself; after one that began more than five milliseconds late,
one interval after it began.

What happens at an instant shows from the next instant on.

## Termination

`looksFrom` ends because each look is due later than the one before, and none begins after the stop.
-/

namespace RemoteSearch.Watch

/-- How long a look takes, and what it shows. -/
structure Probe where
  delay : Nat := 0
  look : Look := .size 0
  deriving Repr, DecidableEq, Inhabited

/-- A look with its times. -/
structure Timed where
  began : Nat
  ended : Nat
  look : Look
  deriving Repr, DecidableEq, Inhabited

/-- How late a look may begin without a shift of those after it. -/
def tolerance : Nat := 5

/-- When the look is due that comes after one that was due and began at the given times. -/
def nextDue (interval due began : Nat) : Nat :=
  if due + tolerance < began then began + interval else due + interval

/-- The looks from the `n`-th on that begin before the stop; `ready` is when the last one ended. -/
def looksFrom (interval stop : Nat) (probe : Nat → Probe) (n due ready : Nat) : List Timed :=
  let began := max due ready
  if hb : began < stop then
    let p := probe n
    let ended := began + p.delay
    let next := nextDue interval due began
    ⟨began, ended, p.look⟩ ::
      -- an interval of zero would never let the time of the next look come
      if hn : due < next ∧ p.look.ending? = none then
        have : stop - next < stop - due := by omega
        looksFrom interval stop probe (n + 1) next ended
      else []
  else []
termination_by stop - due

/-- A watch that is stopped at some time, and waited for no longer than a limit. -/
structure Timeline where
  looks : List Timed
  stop : Nat
  limit : Nat
  deriving Repr, DecidableEq, Inhabited

namespace Timeline

/-- The times of a watch. -/
def make (interval : Nat) (probe : Nat → Probe) (stop limit : Nat) : Timeline :=
  ⟨looksFrom interval stop probe 0 interval 0, stop, limit⟩

/-- How many looks have begun before a time. -/
def begunBefore (t : Timeline) (time : Nat) : Nat := t.looks.countP (·.began < time)

/-- What looks report that have ended before a time. -/
def progressBefore (t : Timeline) (time : Nat) : Progress :=
  ((t.looks.filter (·.ended < time)).filterMap (·.look.size?)).foldl Progress.report {}

/-- The time from which on the end is no longer waited for. -/
def deadline (t : Timeline) : Nat := t.stop + t.limit

/-- When the last look has ended. -/
def lastEnded (t : Timeline) : Nat := (t.looks.map (·.ended)).foldl max 0

/-- What ends the watch: a look, or else the stop as soon as no look is under way. -/
def ends (t : Timeline) : Nat × Ending :=
  match t.looks.findSome? (·.look.ending?) with
  | some e => (t.lastEnded, e)
  | none => (max t.stop t.lastEnded, .stopped)

/-- How the watch ends, if it does so in time; an end at the deadline itself comes too late. -/
def ending? (t : Timeline) : Option Ending :=
  if t.ends.1 < t.deadline then some t.ends.2 else none

/-- What has been reported when the watch is no longer waited for. -/
def finalProgress (t : Timeline) : Progress := t.progressBefore t.deadline

end Timeline

end RemoteSearch.Watch

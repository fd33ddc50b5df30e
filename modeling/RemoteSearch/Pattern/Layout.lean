/-!
# Room for patterns

A pattern is laid out as states for matching, and the room for them is bounded: a short text can
stand for a very large pattern. A `Layout` counts the states laid out so far and the bytes that
they take beyond the fixed size of a state; a step that would pass the bound fails.

States are numbered in the order in which they are laid out. A state that offers a choice takes more
room with each state it leads to, so going on from the end of something costs room exactly when that
end is a choice.

## Termination

`addAll`, `more` and `options` recurse on a count.
-/

namespace RemoteSearch.Pattern

/-- What has been laid out. -/
structure Layout where
  /-- How many states there are, which is also the number of the next one. -/
  states : Nat := 0
  /-- How many bytes they take beyond their fixed size. -/
  extra : Nat := 0
  deriving Repr, DecidableEq, Inhabited

/-- A step that lays something out, if there is room for it. -/
abbrev Lay (α : Type) : Type := StateT Layout Option α

namespace Layout

/-- The fixed size of a state, in bytes. -/
def stateSize : Nat := 32

/-- The room for a way from a state on a range of bytes, where there may be many. -/
def rangeSize : Nat := 8

/-- The room for a way from a choice. -/
def choiceSize : Nat := 4

/-- The room there is: ten MiB. -/
def limit : Nat := 10 * 1024 * 1024

/-- The room that is taken. -/
def room (l : Layout) : Nat := stateSize * l.states + l.extra

/-- The layout with more states and bytes, if there is room for them. -/
def grow (states extra : Nat) (l : Layout) : Option Layout :=
  let l := { states := l.states + states, extra := l.extra + extra }
  if l.room ≤ limit then some l else none

end Layout

namespace Lay

open Layout

/-- A new state with some bytes more than its fixed size; its number. -/
def add (extra : Nat) : Lay Nat := fun l => (l.grow 1 extra).map fun l' => (l.states, l')

/-- New states, so many, with some bytes more than their fixed size altogether. -/
def addAll (states extra : Nat) : Lay Unit := fun l => (l.grow states extra).map fun l' => ((), l')

/-- Room for some more ways from a choice. -/
def ways (n : Nat) : Lay Unit := addAll 0 (choiceSize * n)

/-- A way on from an end, which may be a choice. -/
def link (choice : Bool) : Lay Unit := if choice then ways 1 else pure ()

/-- Something laid out so many times more, after an end. -/
def more (x : Lay Bool) : Nat → Bool → Lay Bool
  | 0, e, l => some (e, l)
  | n + 1, e, l =>
    match x l with
    | none => none
    | some (e', l) =>
      match link e l with
      | none => none
      | some (_, l) => more x n e' l

/-- Something laid out so many times, one after another. -/
def times (x : Lay Bool) : Nat → Lay Bool
  | 0 => do
    let _ ← add 0
    pure false
  | n + 1 => do more x n (← x)

/-- Something laid out so many times more, after an end, each of which may be left out. -/
def options (x : Lay Bool) : Nat → Bool → Lay Bool
  | 0, e, l => some (e, l)
  | n + 1, e, l =>
    match add (2 * choiceSize) l with
    | none => none
    | some (_, l) =>
      match x l with
      | none => none
      | some (e', l) =>
        match link e l with
        | none => none
        | some (_, l) => options x n e' l

/-- Something laid out so that it may be left out. -/
def optional (x : Lay Bool) : Lay Bool := do
  let _ ← add (2 * choiceSize)
  let e ← x
  let _ ← add 0
  link e
  pure false

/-- Something laid out to be taken again and again, the end of which is a choice. -/
def again (x : Lay Bool) : Lay Bool := do
  let e ← x
  let _ ← add choiceSize
  link e
  pure true

/-- Something laid out to be taken any number of times. -/
def anyTimes (x : Lay Bool) (neverEmpty : Bool) : Lay Bool :=
  if neverEmpty then do
    let _ ← add choiceSize
    link (← x)
    pure true
  else do
    let e ← x
    let _ ← add (2 * choiceSize)
    link e
    let _ ← add (2 * choiceSize)
    let _ ← add 0
    pure false

/-- Something laid out to be taken from `min` to `max` times. -/
def repeated (x : Lay Bool) (neverEmpty : Bool) (min : Nat) (max : Option Nat) : Lay Bool :=
  match min, max with
  | 0, some 1 => optional x
  | 0, none => anyTimes x neverEmpty
  | 1, none => again x
  | n + 2, none => do
    let e ← times x (n + 1)
    let e' ← again x
    link e
    pure e'
  | min, some max =>
    if min = max then times x min
    else do
      let e ← times x min
      let _ ← add 0
      link (← options x (max - min) e)
      pure false

/-- Any of some things. -/
def either : List (Lay Bool) → Lay Bool
  | [] => do
    let _ ← add 0
    pure false
  | [x] => x
  | x :: y :: r => do
    let e ← x
    let e' ← y
    let _ ← add (2 * choiceSize)
    let _ ← add 0
    link e
    link e'
    r.forM fun x => do
      let e ← x
      ways 1
      link e
    pure false

end Lay

end RemoteSearch.Pattern

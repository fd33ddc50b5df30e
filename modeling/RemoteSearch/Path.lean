import RemoteSearch.Text.Blank
import RemoteSearch.Text.Case.Upper
import RemoteSearch.Text.Split

/-!
# Paths

Paths are texts whose segments are separated by the host's delimiter. This module says when a path
is absolute, when one lies within another, and where a link leads.

A backslash as delimiter brings drives with it: a first segment that ends in a colon is a root of
its own, which is never left and keeps its delimiter when it stands alone.
-/

namespace RemoteSearch.Path

open Text Text.Case

/-- A path without the delimiters at its end. -/
def dropTrailing (d : Char) (l : List Char) : List Char := dropEndWhile (· == d) l

/-- Whether a path starts at a root: with the delimiter, or with a drive letter and a colon. -/
def isAbsoluteText (d : Char) (l : List Char) : Bool :=
  l.head? == some d ||
    (d == '\\' && match l with
      | a :: ':' :: _ => a.isAlpha
      | _ => false)

/-- Whether a path is absolute. -/
def isAbsolute (path : String) (d : Char) : Bool := isAbsoluteText d path.toList

/-- Whether a path equals a root or lies beneath it, segment by segment. -/
def isWithinText (d : Char) (path root : List Char) : Bool :=
  let root := dropTrailing d root
  if root.isEmpty then path.head? == some d
  else root.isPrefixOf path && (path.length == root.length || path[root.length]? == some d)

/-- Whether a path lies within a root, on request without regard to case. -/
def isWithin (path root : String) (d : Char) (ignoreCase : Bool) : Bool :=
  if ignoreCase then isWithinText d (upperText path.toList) (upperText root.toList)
  else isWithinText d path.toList root.toList

/-! ## Links -/

/-- The segments of a path, empty ones left out. -/
def segments (d : Char) (l : List Char) : List (List Char) :=
  (splitAt d l).filter (!·.isEmpty)

/--
One step of a walk: nothing and a single dot stay, two dots go up unless only `floor` segments are
left, any other name goes down.
-/
def walkStep (floor : Nat) (stack : List (List Char)) (segment : List Char) : List (List Char) :=
  if segment = [] ∨ segment = ['.'] then stack
  else if segment = ['.', '.'] then
    if floor < stack.length then stack.dropLast else stack
  else stack ++ [segment]

/-- How many leading segments are never left: one when the first is a drive. -/
def floorOf (d : Char) (stack : List (List Char)) : Nat :=
  match stack with
  | first :: _ => if d = '\\' ∧ first.getLast? = some ':' then 1 else 0
  | [] => 0

/-- The absolute path with the given segments; a drive comes first without a delimiter. -/
def absolute (d : Char) (floor : Nat) (stack : List (List Char)) : List Char :=
  if floor = 1 then
    let joined := joinWith d stack
    if stack.length = 1 then joined ++ [d] else joined
  else
    match stack.flatMap (d :: ·) with
    | [] => [d]
    | l => l

/-- Where the link at `path` with the given target leads. -/
def resolveText (d : Char) (path target : List Char) : List Char :=
  if isAbsoluteText d target then target
  else
    let parent := (segments d path).dropLast
    let floor := floorOf d parent
    absolute d floor ((splitAt d target).foldl (walkStep floor) parent)

/--
Where a link leads: an absolute target as it stands, a relative one from the directory of the
link, never above the root.
-/
def resolve (path target : String) (d : Char) : String :=
  String.ofList (resolveText d path.toList target.toList)

end RemoteSearch.Path

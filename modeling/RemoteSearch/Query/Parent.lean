import RemoteSearch.Text.Split

/-!
# Directories in patterns

A pattern that is anchored at the start of a path may begin with the name of a directory, written
out. Everything the pattern finds then lies in that directory, so a search can begin there.
-/

namespace RemoteSearch.Query

open Text

/--
The text that every match begins with, read off the front of a pattern until something in it is
not literal. `acc` holds the characters so far in reverse; the last of them is given up when a
repetition follows it. A pattern with alternatives on the way has no such text.
-/
def literalPart (acc : List Char) : List Char → Option (List Char)
  | [] => some acc.reverse
  | '\\' :: c :: r => if c.isAlphanum then some acc.reverse else literalPart (c :: acc) r
  | c :: r =>
    if c = '\\' then some acc.reverse
    else if c = '|' then none
    else if ['.', '[', '(', '$', '+'].contains c then some acc.reverse
    else if ['*', '?', '{'].contains c then some acc.tail.reverse
    else literalPart (c :: acc) r

/-- The directory of a path, up to its last delimiter; the root of a host or drive stays whole. -/
def directoryOf (d : Char) (l : List Char) : Option (List Char) :=
  (cutAtLast [d] l).map fun (parent, _) =>
    if parent.isEmpty then [d]
    else if d = '\\' ∧ parent.getLast? = some ':' then parent ++ [d]
    else parent

/-- The deepest directory that a pattern is known to stay in. -/
def parentText (d : Char) : List Char → Option (List Char)
  | '^' :: r => (literalPart [] r).bind (directoryOf d)
  | _ => none

/-- The deepest directory that a pattern is known to stay in, if it is anchored and names one. -/
def guessParent (pattern : String) (d : Char) : Option String :=
  (parentText d pattern.toList).map String.ofList

end RemoteSearch.Query

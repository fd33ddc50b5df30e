import RemoteSearch.Pattern.CharClass

/-!
# Patterns

The syntax tree of a pattern. Case folding, line modes and the like are settled when a pattern is
read, so the tree needs no flags. Groups, and whether a repetition prefers more rounds or fewer,
make no difference to what is found; they stand in the tree because the room that a pattern takes
depends on them.
-/

namespace RemoteSearch.Pattern

/-- A condition on a place between two characters. -/
inductive Anchor where
  /-- The start of the text. -/
  | textStart
  /-- The end of the text. -/
  | textEnd
  /-- The start of the text or of a line. -/
  | lineStart
  /-- The end of the text or of a line. -/
  | lineEnd
  /-- As `lineStart`, where a line may also end in a carriage return. -/
  | lineStartReturn
  /-- As `lineEnd`, where a line may also end in a carriage return. -/
  | lineEndReturn
  /-- Between a word character and anything else. -/
  | wordBoundary (ascii : Bool)
  /-- Not between a word character and anything else. -/
  | notWordBoundary (ascii : Bool)
  /-- Before a word and not after a word character. -/
  | wordStart (ascii : Bool)
  /-- After a word and not before a word character. -/
  | wordEnd (ascii : Bool)
  /-- Not after a word character. -/
  | wordStartHalf (ascii : Bool)
  /-- Not before a word character. -/
  | wordEndHalf (ascii : Bool)
  deriving Repr, DecidableEq, Inhabited

/-- A pattern. -/
inductive Node where
  /-- The empty text. -/
  | empty
  /-- One character of a class. -/
  | one (s : CharClass)
  /-- No character, at a place that satisfies the condition. -/
  | anchor (a : Anchor)
  /-- One pattern after another. -/
  | seq (a b : Node)
  /-- Either pattern. -/
  | alt (a b : Node)
  /-- A pattern repeated at least `min` and at most `max` times, if there is a `max`. -/
  | rep (a : Node) (greedy : Bool) (min : Nat) (max : Option Nat)
  /-- A pattern in parentheses, which have a number if what matches in them is kept. -/
  | group (number : Option Nat) (a : Node)
  /-- No character, at a place where the pattern does not match. -/
  | notAhead (a : Node)
  deriving Repr, DecidableEq, Inhabited

namespace Node

/-- The patterns of a list one after another. -/
def ofSeq : List Node → Node
  | [] => empty
  | [a] => a
  | a :: b :: r => seq a (ofSeq (b :: r))

/-- Any pattern of a list; an empty list is the empty pattern. -/
def ofAlts : List Node → Node
  | [] => empty
  | [a] => a
  | a :: b :: r => alt a (ofAlts (b :: r))

end Node

end RemoteSearch.Pattern

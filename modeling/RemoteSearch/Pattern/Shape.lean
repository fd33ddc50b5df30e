import RemoteSearch.Pattern.Syntax
import RemoteSearch.Text.Utf8

/-!
# Shapes of patterns

What is left of a pattern when the ways to write it that make no difference are gone: sequences and
alternatives are flat, neighbouring texts are one text, alternatives that are characters or classes
are one class, and alternatives that begin alike have their beginning in common once. Two kinds of
parentheses differ here: those that keep what matches stay, the others leave no trace.

Sequences and alternatives lean to the right: the first operand of `seq` is no sequence, the first
operand of `alt` is no alternative. `parts` and `alternatives` give them as lists.
-/

namespace RemoteSearch.Pattern

open Text

/-- The shape of a pattern. -/
inductive Shape where
  | empty
  /-- One text, which is not empty. -/
  | text (l : List Char)
  /-- One character of a set, which may be empty. -/
  | set (r : Unicode.Ranges)
  /-- A condition on a place. -/
  | place (a : Anchor)
  | rep (a : Shape) (greedy : Bool) (min : Nat) (max : Option Nat)
  /-- A shape of which it is kept, under a number, what matches. -/
  | group (number : Nat) (a : Shape)
  | seq (a b : Shape)
  | alt (a b : Shape)
  deriving Repr, DecidableEq, Inhabited

namespace Shape

/-! ## Sequences and alternatives as lists -/

/-- The shapes that stand one after another. -/
def parts : Shape → List Shape
  | seq a b => a :: b.parts
  | empty => []
  | a => [a]

/-- The shapes of which any may match. -/
def alternatives : Shape → List Shape
  | alt a b => a :: b.alternatives
  | a => [a]

/-- A shape that is no sequence in front of another shape. -/
def prepend : Shape → Shape → Shape
  | a, empty => a
  | text l, text r => text (l ++ r)
  | text l, seq (text r) b => seq (text (l ++ r)) b
  | a, b => seq a b

/-- One shape after another. -/
def join (a b : Shape) : Shape := a.parts.foldr prepend b

/-- The shapes of a list one after another. -/
def ofParts (l : List Shape) : Shape := l.foldr join empty

/-- Any shape of a list, as the list stands. -/
def ofAlternatives : List Shape → Shape
  | [] => set {}
  | [a] => a
  | a :: b :: r => alt a (ofAlternatives (b :: r))

/-! ## What a shape can match -/

/-- Whether the shape matches no text but the empty one. -/
def isEmptyOnly : Shape → Bool
  | empty | place _ => true
  | text _ | set _ => false
  | rep a _ _ max => max.isSome && a.isEmptyOnly
  | group _ a => a.isEmptyOnly
  | seq a b | alt a b => a.isEmptyOnly && b.isEmptyOnly

/-- The fewest characters that match; not known where some part of the shape matches nothing. -/
def minLength : Shape → Option Nat
  | empty | place _ => some 0
  | text l => some l.length
  | set r => if r.pairs.isEmpty then none else some 1
  | rep a _ min _ => a.minLength.map (· * min)
  | group _ a => a.minLength
  | seq a b => a.minLength.bind fun n => b.minLength.map (n + ·)
  | alt a b => a.minLength.bind fun n => b.minLength.map (Nat.min n)

/-- Whether it is known that the empty text does not match. -/
def neverEmpty (a : Shape) : Bool := a.minLength.any (0 < ·)

/-- Whether a match can begin only at the start of the text. -/
def fromStart : Shape → Bool
  | place a => a == .textStart
  | rep a _ min _ => 0 < min && a.fromStart
  | group _ a => a.fromStart
  | seq a b => a.fromStart || (a.isEmptyOnly && b.fromStart)
  | alt a b => a.fromStart && b.fromStart
  | _ => false

/-- Whether a match can end only at the end of the text. -/
def toEnd : Shape → Bool
  | place a => a == .textEnd
  | rep a _ min _ => 0 < min && a.toEnd
  | group _ a => a.toEnd
  | seq a b => b.toEnd || (b.isEmptyOnly && a.toEnd)
  | alt a b => a.toEnd && b.toEnd
  | _ => false

/-! ## Building shapes -/

/-- One character of a set. -/
def ofRanges (r : Unicode.Ranges) : Shape :=
  match r.pairs with
  | [(a, b)] => if a = b then text [Char.ofNat a] else set r
  | _ => set r

/-- A shape repeated. What matches only the empty text is worth at most one round. -/
def repeated (a : Shape) (greedy : Bool) (min : Nat) (max : Option Nat) : Shape :=
  let (min, max) := if a.isEmptyOnly then (Nat.min min 1, some ((max.map (Nat.min 1)).getD 1))
    else (min, max)
  match min, max with
  | 0, some 0 => empty
  | 1, some 1 => a
  | min, max => rep a greedy min max

/-- The character that a shape is. -/
def char? : Shape → Option Char
  | text [c] => some c
  | _ => none

/-- The set that a shape is. -/
def set? : Shape → Option Unicode.Ranges
  | set r => some r
  | _ => none

/-- The beginning that two lists have in common. -/
def commonPrefix : List Shape → List Shape → List Shape
  | a :: l, b :: r => if a = b then a :: commonPrefix l r else []
  | _, _ => []

/-- The beginning that the parts of all shapes have in common, if all of them are sequences. -/
def sharedParts : List Shape → List Shape
  | [] => []
  | a :: l =>
    if (a :: l).all fun s => s matches seq _ _ then
      l.foldl (fun acc b => commonPrefix acc b.parts) a.parts
    else []

/-- Any shape of a list, without a look at how they begin. -/
def gather (l : List Shape) : Shape :=
  let l := l.flatMap alternatives
  match l with
  | [a] => a
  | _ =>
    match l.mapM char?, l.mapM set? with
    | some cs, _ => ofRanges (.ofCodes (cs.map Char.toNat))
    | none, some rs => ofRanges (.unite rs)
    | none, none => ofAlternatives l

/-- Any shape of a list. -/
def either (l : List Shape) : Shape :=
  match gather l with
  | alt a b =>
    let l := (alt a b).alternatives
    match sharedParts l with
    | [] => alt a b
    | shared =>
      join (ofParts shared) (gather (l.map fun s => ofParts (s.parts.drop shared.length)))
  | a => a

end Shape

namespace Node

/-- The shapes of the alternatives of a pattern. -/
def shapes : Node → List Shape
  | empty => [.empty]
  | one s => [.ofRanges s.ranges]
  | anchor a => [.place a]
  | seq a b => [(Shape.either a.shapes).join (.either b.shapes)]
  | alt a b => .either a.shapes :: b.shapes
  | rep a greedy min max => [(Shape.either a.shapes).repeated greedy min max]
  | group none a => [.either a.shapes]
  | group (some n) a => [.group n (.either a.shapes)]
  | notAhead _ => [.empty]

/-- The shape of a pattern. -/
def shape (a : Node) : Shape := .either a.shapes

end Node

end RemoteSearch.Pattern

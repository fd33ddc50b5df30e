import RemoteSearch.Pattern.Syntax

/-!
# Matching

A pattern leads from places in a text to places in it: the places where a match that starts there
can end. `Node.reach` computes this for a whole set of places at once, and `Node.Matches` says the
same as a relation. A text is found by a pattern if some match starts somewhere in it.

## Termination

`reach` recurses on the pattern. A repetition without an upper bound is followed for as many rounds
as the text has places, since after that no round reaches anything new.
-/

namespace RemoteSearch.Pattern

open Text

/-- The character before a place, if any. -/
def before (t : List Char) (p : Nat) : Option Char := if p = 0 then none else t[p - 1]?

/-- Whether a character is there and belongs to a word. -/
def wordAt (ascii : Bool) : Option Char → Bool
  | none => false
  | some c => if ascii then isAsciiWordChar c else isWordChar c

/-- Whether the condition holds at place `p` of the text. -/
def Anchor.holds (t : List Char) (p : Nat) : Anchor → Bool
  | textStart => p == 0
  | textEnd => p == t.length
  | lineStart => p == 0 || before t p == some '\n'
  | lineEnd => p == t.length || t[p]? == some '\n'
  | lineStartReturn =>
    p == 0 || before t p == some '\n' || (before t p == some '\r' && t[p]? != some '\n')
  | lineEndReturn =>
    p == t.length || t[p]? == some '\r' || (t[p]? == some '\n' && before t p != some '\r')
  | wordBoundary ascii => wordAt ascii (before t p) != wordAt ascii t[p]?
  | notWordBoundary ascii => wordAt ascii (before t p) == wordAt ascii t[p]?
  | wordStart ascii => !wordAt ascii (before t p) && wordAt ascii t[p]?
  | wordEnd ascii => wordAt ascii (before t p) && !wordAt ascii t[p]?
  | wordStartHalf ascii => !wordAt ascii (before t p)
  | wordEndHalf ascii => !wordAt ascii t[p]?

/-! ## Matching as a relation -/

/-- Whether `R` leads from `p` to `q` in exactly so many steps. -/
def Steps (R : Nat → Nat → Prop) : Nat → Nat → Nat → Prop
  | 0, p, q => p = q
  | n + 1, p, q => ∃ r, R p r ∧ Steps R n r q

/-- Whether the pattern can match the text from place `p` to place `q`. -/
def Node.Matches (t : List Char) : Node → Nat → Nat → Prop
  | empty, p, q => p = q
  | one s, p, q => ∃ c, t[p]? = some c ∧ s.has c = true ∧ q = p + 1
  | anchor a, p, q => a.holds t p = true ∧ p = q
  | seq a b, p, q => ∃ r, a.Matches t p r ∧ b.Matches t r q
  | alt a b, p, q => a.Matches t p q ∨ b.Matches t p q
  | rep a _ min max, p, q =>
    ∃ n, min ≤ n ∧ (∀ m, max = some m → n ≤ m) ∧ Steps (a.Matches t) n p q
  | group _ a, p, q => a.Matches t p q
  | notAhead a, p, q => (∀ r, ¬ a.Matches t p r) ∧ p = q

/-! ## Where matches end -/

/-- The places of both lists, without repetition. -/
def merge (a b : List Nat) : List Nat := a ++ b.filter (!a.contains ·)

/-- The places reached by applying `step` any number of times up to `rounds`. -/
def iterate (step : List Nat → List Nat) : Nat → List Nat → List Nat
  | 0, ps => ps
  | n + 1, ps =>
    let next := (step ps).filter (!ps.contains ·)
    if next.isEmpty then ps else merge ps (iterate step n next)

/-- The places reached by applying `step` exactly so many times. -/
def applyTimes (step : List Nat → List Nat) : Nat → List Nat → List Nat
  | 0, ps => ps
  | n + 1, ps => if ps.isEmpty then ps else applyTimes step n (step ps)

/-- The places where a match from one of the given places can end. -/
def Node.reach (t : List Char) : Node → List Nat → List Nat
  | empty, ps => ps
  | one s, ps => ps.filterMap fun p =>
      match t[p]? with
      | some c => if s.has c then some (p + 1) else none
      | none => none
  | anchor a, ps => ps.filter fun p => a.holds t p
  | seq a b, ps => b.reach t (a.reach t ps)
  | alt a b, ps => merge (a.reach t ps) (b.reach t ps)
  | rep a _ min max, ps =>
    let start := applyTimes (a.reach t) min ps
    match max with
    | none => iterate (a.reach t) (t.length + 1) start
    | some m => if min ≤ m then iterate (a.reach t) (m - min) start else []
  | group _ a, ps => a.reach t ps
  | notAhead a, ps => ps.filter fun p => (a.reach t [p]).isEmpty

/-- Whether the pattern matches somewhere in the text. -/
def Node.found (a : Node) (t : List Char) : Bool :=
  !(a.reach t (List.range (t.length + 1))).isEmpty

/-- Whether the pattern matches the text from its start to its end. -/
def Node.matchesWhole (a : Node) (t : List Char) : Bool := (a.reach t [0]).contains t.length

end RemoteSearch.Pattern

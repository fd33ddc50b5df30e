import RemoteSearch.Text.Blank
import RemoteSearch.Text.Case.Fold
import RemoteSearch.Text.Word

/-!
# Character classes

The sets of characters that a pattern can name. A class is kept as the expression that describes
it, so membership follows the expression: a union holds what either side holds, a folded class
holds whatever has a case variant in the class under it. `ranges` gives the same set in its one
written form.
-/

namespace RemoteSearch.Pattern

open Text Text.Case

/-- A set of characters. -/
inductive CharClass where
  /-- The characters from one to another, both included. -/
  | range (first last : Char)
  /-- No character. -/
  | none
  /-- The characters of a table. -/
  | table (r : Unicode.Ranges)
  | union (a b : CharClass)
  | inter (a b : CharClass)
  | diff (a b : CharClass)
  | compl (a : CharClass)
  /-- The class with all case variants of its members. -/
  | folded (a : CharClass)
  /-- The class with the case variants of its members that lie in ASCII, as they do. -/
  | foldedAscii (a : CharClass)
  deriving Repr, DecidableEq, Inhabited

namespace CharClass

/-- Membership of a character. -/
def has : CharClass → Char → Bool
  | range a b, c => a ≤ c && c ≤ b
  | none, _ => false
  | table r, c => r.has c.toNat
  | union a b, c => a.has c || b.has c
  | inter a b, c => a.has c && b.has c
  | diff a b, c => a.has c && !b.has c
  | compl a, c => !a.has c
  | folded a, c => (variants c).any fun d => a.has d
  | foldedAscii a, c => (asciiVariants c).any fun d => a.has d

/-- The ranges of the class. -/
def ranges : CharClass → Unicode.Ranges
  | range a b => .between a.toNat b.toNat
  | none => {}
  | table r => r
  | union a b => a.ranges.union b.ranges
  | inter a b => a.ranges.inter b.ranges
  | diff a b => a.ranges.diff b.ranges
  | compl a => a.ranges.compl
  | folded a => withVariants a.ranges
  | foldedAscii a => withAsciiVariants a.ranges

/-- The class of one character. -/
def single (c : Char) : CharClass := range c c

/-- The class of the characters of a text. -/
def ofList (l : List Char) : CharClass := l.foldr (fun c s => union (single c) s) none

/-- The class of the characters in any of the ranges. -/
def ofRanges (l : List (Char × Char)) : CharClass :=
  l.foldr (fun r s => union (range r.1 r.2) s) none

/-- Every character. -/
def all : CharClass := compl none

/-- Decimal digits of all scripts. -/
def decimal : CharClass := table Unicode.Category.decimalNumber

/-- Word characters of all scripts. -/
def word : CharClass := table Unicode.wordCharacter

/-- White space. -/
def blank : CharClass := table Unicode.Trait.whiteSpace

@[simp] theorem has_single (c d : Char) : (single c).has d = (c == d) := by
  simp only [single, has]
  by_cases h : c = d
  · subst h
    simp
  · have hne : ¬(c ≤ d ∧ d ≤ c) := fun ⟨h1, h2⟩ => h (Char.le_antisymm h1 h2)
    have hb : (c == d) = false := by simpa using h
    rw [hb]
    simpa using hne

/-- The ASCII digits. -/
def asciiDigit : CharClass := range '0' '9'

/-- The characters of ASCII words. -/
def asciiWord : CharClass := ofRanges [('0', '9'), ('A', 'Z'), ('_', '_'), ('a', 'z')]

/-- The ASCII white space. -/
def asciiBlank : CharClass := ofRanges [('\t', '\r'), (' ', ' ')]

/-- The ASCII class of a name, such as `alpha`. -/
def ofAsciiName? : String → Option CharClass
  | "alnum" => some (ofRanges [('0', '9'), ('A', 'Z'), ('a', 'z')])
  | "alpha" => some (ofRanges [('A', 'Z'), ('a', 'z')])
  | "ascii" => some (range '\x00' '\x7F')
  | "blank" => some (ofList ['\t', ' '])
  | "cntrl" => some (ofRanges [('\x00', '\x1F'), ('\x7F', '\x7F')])
  | "digit" => some asciiDigit
  | "graph" => some (range '!' '~')
  | "lower" => some (range 'a' 'z')
  | "print" => some (range ' ' '~')
  | "punct" => some (ofRanges [('!', '/'), (':', '@'), ('[', '\x60'), ('\x7B', '~')])
  | "space" => some asciiBlank
  | "upper" => some (range 'A' 'Z')
  | "word" => some asciiWord
  | "xdigit" => some (ofRanges [('0', '9'), ('A', 'F'), ('a', 'f')])
  | _ => Option.none

end CharClass

end RemoteSearch.Pattern

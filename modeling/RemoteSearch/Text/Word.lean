import RemoteSearch.Text.Unicode.Added

/-!
# Word characters

Classes of characters that patterns speak of: the characters that words consist of (letters, marks,
digits, connectors and joiners), and letters and numbers.
-/

namespace RemoteSearch.Text

/-- Whether a character can be part of a word. -/
def isWordChar (c : Char) : Bool := Unicode.wordCharacter.has c.toNat

/-- Whether a character can be part of a word of ASCII. -/
def isAsciiWordChar (c : Char) : Bool :=
  ('0' ≤ c && c ≤ '9') || ('A' ≤ c && c ≤ 'Z') || ('a' ≤ c && c ≤ 'z') || c == '_'

/-- Whether words are spelled with a character. -/
def isAlphabetic (c : Char) : Bool := Unicode.Added.alphabetic.has c.toNat

/-- Whether a character is a number of some script. -/
def isNumeric (c : Char) : Bool := Unicode.Added.number.has c.toNat

end RemoteSearch.Text

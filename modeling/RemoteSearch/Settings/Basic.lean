import RemoteSearch.Fields
import RemoteSearch.Text.Blank
import RemoteSearch.Text.Numeral

/-!
# Settings

The settings in force, as texts under their names.
-/

namespace RemoteSearch

open Text

/-- Settings that have been resolved for a host. -/
structure Settings where
  values : Fields := []
  deriving Repr, DecidableEq, Inhabited

namespace Settings

/-- Settings made of pairs. -/
def ofPairs (l : List (String × String)) : Settings := ⟨.ofList l⟩

/-- The text of a setting. -/
def text? (s : Settings) (key : String) : Option String := s.values.get? key

/-- The number that a setting gives; anything that is no number below 2⁶⁴ is ignored. -/
def nat? (s : Settings) (key : String) : Option Nat :=
  (s.text? key).bind fun t => nat64? (trimmed t)

/-- The number that a setting gives, unless it is zero. -/
def positive? (s : Settings) (key : String) : Option Nat := (s.nat? key).filter (· ≠ 0)

/-- The text of a setting without blanks around it, unless nothing is left. -/
def word? (s : Settings) (key : String) : Option String :=
  ((s.text? key).map trimmed).filter (!·.isEmpty)

/-- A path in which a tilde that stands alone in front has been replaced by the home directory. -/
def expandTilde (home : String) (path : List Char) : String :=
  match path with
  | ['~'] => home
  | '~' :: '/' :: r => home ++ String.ofList ('/' :: r)
  | l => String.ofList l

/-- The local directory for copies of remote files. -/
def workspace? (s : Settings) (home : String) : Option String :=
  (s.word? "workspace").map fun w => expandTilde home w.toList

/-- The number of settings. -/
def size (s : Settings) : Nat := s.values.length

/-- Whether there are no settings. -/
def isEmpty (s : Settings) : Bool := s.values.isEmpty

end Settings

end RemoteSearch

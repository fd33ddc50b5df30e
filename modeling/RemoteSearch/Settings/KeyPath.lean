import RemoteSearch.Text.Numeral

/-!
# Key paths

A key leads into a tree of settings: a name, then names after dots and positions in brackets. A key
that is not written like this is a single name as it stands.
-/

namespace RemoteSearch.Settings

open Text

/-- A step into a tree. -/
inductive KeyStep where
  | child (name : String)
  /-- A position in a list; negative ones count from its end. -/
  | position (n : Int)
  deriving Repr, DecidableEq, Inhabited

/-- Whether a character may stand in a name of a path. -/
def isNameChar (c : Char) : Bool := c.isAlphanum || c == '_' || c == '-'

/-- A position of 64 bits, with an optional minus sign. -/
def readPosition (l : List Char) : Option Int :=
  if l.head? = some '+' then none else readInt 0x8000_0000_0000_0000 l

/-- A text without the spaces and tabs around it. -/
def withoutMargins (l : List Char) : List Char :=
  let inside (l : List Char) := l.dropWhile fun c => c == ' ' || c == '\t'
  (inside (inside l).reverse).reverse

/-- Reads the steps after the first name. Spaces and tabs may stand around a position. -/
def readSteps (l : List Char) : Option (List KeyStep) :=
  match l with
  | [] => some []
  | '.' :: r =>
    have : (r.dropWhile isNameChar).length ≤ r.length := (List.dropWhile_suffix _).length_le
    let name := r.takeWhile isNameChar
    if name.isEmpty then none
    else (readSteps (r.dropWhile isNameChar)).map (.child (String.ofList name) :: ·)
  | '[' :: r =>
    match h : r.dropWhile (· != ']') with
    | ']' :: rest =>
      have : (']' :: rest).length ≤ r.length := h ▸ (List.dropWhile_suffix _).length_le
      do
        let n ← readPosition (withoutMargins (r.takeWhile (· != ']')))
        (readSteps rest).map (.position n :: ·)
    | _ => none
  | _ => none
termination_by l.length
decreasing_by
  all_goals
    simp only [List.length_cons] at *
    omega

/-- The steps that a key means. -/
def keySteps (key : String) : List KeyStep :=
  let l := key.toList
  let name := l.takeWhile isNameChar
  if name.isEmpty then [.child key]
  else
    match readSteps (l.dropWhile isNameChar) with
    | some steps => .child (String.ofList name) :: steps
    | none => [.child key]

end RemoteSearch.Settings

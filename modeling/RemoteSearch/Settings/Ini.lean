import RemoteSearch.Fields
import RemoteSearch.Text.Blank

/-!
# Settings files

The reading of settings from text. A key stands before an equals sign or a colon and its value
after it, to the end of the line. Headings in brackets begin sections. A comment begins with a
semicolon or a hash in the first column; anywhere else such a sign where a key or heading should
begin is an error.

A backslash begins an escape in headings, keys and values. Values may have parts in quotes, which
may run over several lines. A key may run over several lines too, so a line without a sign joins
the next one, and is an error at the end of the text.

An indented line always begins with a key, whatever its first sign. If that key cannot be read, it
is passed over: reading goes on where it broke off.

## Termination

Pieces are read by recursion on the text. The loop over items runs down on what is left, and stops
if an item takes nothing.
-/

namespace RemoteSearch.Settings.Ini

open Text

/-- The value of a hexadecimal digit. -/
def hexDigit (c : Char) : Option Nat :=
  if '0' ≤ c ∧ c ≤ '9' then some (c.toNat - 48)
  else if 'a' ≤ c ∧ c ≤ 'f' then some (c.toNat - 87)
  else if 'A' ≤ c ∧ c ≤ 'F' then some (c.toNat - 55)
  else none

/-- The character with a code of four hexadecimal digits; a plus sign may stand for the first. -/
def charOfCode (a b c d : Char) : Option Char := do
  let w ← if a = '+' then some 0 else hexDigit a
  let x ← hexDigit b
  let y ← hexDigit c
  let z ← hexDigit d
  let n := 4096 * w + 256 * x + 16 * y + z
  if n.isValidChar then some (Char.ofNat n) else none

/-- The character after `\x` and four digits, and the text after them. -/
def readCode : List Char → Option (Char × List Char)
  | a :: b :: c :: d :: r => (charOfCode a b c d).map (·, r)
  | _ => none

theorem length_lt_of_readCode {l r : List Char} {e : Char} (h : readCode l = some (e, r)) :
    r.length < l.length := by
  unfold readCode at h
  split at h
  · obtain ⟨x, _, hx⟩ := Option.map_eq_some_iff.1 h
    simp only [Prod.mk.injEq] at hx
    simp only [← hx.2, List.length_cons]
    omega
  · simp at h

/--
The text from where a code of `n` characters that gives none breaks off: its last character, or the
one after a backslash in it that is no line feed.
-/
def breakOff : Nat → List Char → List Char
  | n + 1, '\\' :: '\n' :: r => if n = 0 then '\n' :: r else breakOff n r
  | _ + 1, '\\' :: r => r
  | n + 1, c :: r => if n = 0 then c :: r else breakOff n r
  | _, l => l

/-- What a character after a backslash stands for; a line feed there stands for nothing. -/
def escaped : Char → List Char
  | '0' => ['\x00']
  | 'a' => ['\x07']
  | 'b' => ['\x08']
  | 't' => ['\t']
  | 'r' => ['\r']
  | 'n' => ['\n']
  | '\n' => []
  | c => [c]

/-- What reading gives: what was read and the rest, or the text from where it broke off. -/
abbrev Reading := Except (List Char) (List Char × List Char)

/-- What was read with more in front of it. -/
def Reading.after (front : List Char) : Reading → Reading
  | .ok (l, r) => .ok (front ++ l, r)
  | .error r => .error r

/--
Reads up to a character at which to stop, with escapes replaced. The text may end before that only
if `open'` allows it; there a backslash at its end stands for itself. The rest begins with the
character at which reading stopped.
-/
def readUntil (stop : Char → Bool) (open' : Bool) (l : List Char) : Reading :=
  match l with
  | [] => if open' then .ok ([], []) else .error []
  | ['\\'] => if open' then .ok (['\\'], []) else .error []
  | '\\' :: 'x' :: r =>
    match h : readCode r with
    | some (e, rest) =>
      have := length_lt_of_readCode h
      (readUntil stop open' rest).after [e]
    | none => .error (breakOff 4 r)
  | '\\' :: c :: r => (readUntil stop open' r).after (escaped c)
  | c :: r => if stop c then .ok ([], c :: r) else (readUntil stop open' r).after [c]
termination_by l.length

/-- Whether a character ends a line. -/
def endsLine (c : Char) : Bool := c == '\n' || c == '\r'

/-- The part of a value that is not in quotes; in front it loses its leading blanks too. -/
def readPlain (front : Bool) (l : List Char) : Option (List Char × List Char) :=
  match readUntil endsLine true l with
  | .ok (text, rest) => some (if front then trim text else trimEnd text, rest)
  | .error _ => none

/-- Reads the parts of a value; `front` tells that none has been read so far. -/
def readParts (front : Bool) (l : List Char) : Option (List Char × List Char) :=
  match l with
  | [] => some ([], [])
  | c :: r =>
    if c = '"' ∨ c = '\'' then
      match readUntil (· == c) false r with
      | .ok (text, _ :: rest) =>
        if _h : rest.length < r.length + 1 then
          (readParts false rest).map fun (more, rest) => (text ++ more, rest)
        else none
      | _ => none
    else readPlain front (c :: r)
termination_by l.length

/-- Reads a value, which begins after the blanks of its line. -/
def readValue (l : List Char) : Option (List Char × List Char) :=
  readParts true (l.dropWhile fun c => isBlank c && !endsLine c)

/-- What has been read so far. -/
structure State where
  /-- The sections that were begun, latest first, with their pairs; the first has no name. -/
  sections : List (Option String × Fields) := [(none, [])]
  /-- A key that awaits its sign. -/
  key : List Char := []
  deriving Repr, Inhabited

namespace State

/-- Begins a section. -/
def begin (s : State) (name : String) : State :=
  { s with sections := (some name, []) :: s.sections }

/-- Adds a value for the key to the current section. -/
def add (s : State) (value : String) : State :=
  match s.sections with
  | (name, fields) :: r => ⟨(name, fields.put (String.ofList s.key) value) :: r, []⟩
  | [] => s

end State

/-- Whether a character ends a key. -/
def isSign (c : Char) : Bool := c == '=' || c == ':'

/-- Whether a character indents a line. -/
def indents (c : Char) : Bool := c == ' ' || c == '\t'

/-- Reads one item, which begins with `c` and goes on in `r`. -/
def readItem (s : State) (firstColumn : Bool) (c : Char) (r : List Char) :
    Option (State × List Char) :=
  if c = ';' ∨ c = '#' then
    if firstColumn then some (s, r.dropWhile (· != '\n')) else none
  else if c = '[' then
    match readUntil (· == ']') false r with
    | .ok (name, rest) => some (s.begin (String.ofList (trim name)), rest.tail)
    | .error _ => none
  else if isSign c then
    -- a sign without a key before it
    if s.key.isEmpty then none
    else do
      let (value, rest) ← readValue r
      some (s.add (String.ofList value), rest)
  else
    -- a key runs on over line ends until its sign comes
    match readUntil isSign false (c :: r) with
    | .ok (key, rest) => some ({ s with key := trim key }, rest)
    | .error rest => if indents c then some (s, rest) else none

/--
Drops blanks, but not those that indent a line; the result also tells whether the first character
left begins a line.
-/
def skipBlanks (firstColumn : Bool) : List Char → Bool × List Char
  | [] => (firstColumn, [])
  | c :: r =>
    if endsLine c && r.head?.any indents then (c == '\n', r)
    else if isBlank c then skipBlanks (c == '\n') r
    else (firstColumn, c :: r)

/-- Reads items to the end of the text, of which the first begins there. -/
def readItems (s : State) (firstColumn : Bool) (l : List Char) : Option State :=
  match l with
  | [] => some s
  | c :: r =>
    match readItem s firstColumn c r with
    | none => none
    | some (s, rest) =>
      let (firstColumn, next) := skipBlanks false rest
      if _h : next.length < r.length + 1 then readItems s firstColumn next else none
termination_by l.length

/--
The text from its first item on, and whether that begins a line. Blanks come before it only where
the text begins with a line end.
-/
def begin (l : List Char) : Bool × List Char :=
  if l.head?.any endsLine then
    let blanks := l.takeWhile isBlank
    (blanks.getLast? == some '\n', l.dropWhile isBlank)
  else (true, l)

/--
The sections of a text in the order in which they begin, each with its pairs; the pairs before the
first heading come first and have no name.
-/
def read (text : String) : Option (List (Option String × Fields)) :=
  let (firstColumn, l) := begin text.toList
  (readItems {} firstColumn l).map fun s => s.sections.reverse

end RemoteSearch.Settings.Ini

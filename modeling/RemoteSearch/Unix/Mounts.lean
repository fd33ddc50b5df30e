import RemoteSearch.Mount
import RemoteSearch.Text.Blank
import RemoteSearch.Text.Split
import RemoteSearch.Text.Utf8
import RemoteSearch.Unix.Dialect

/-!
# Mount tables of Unix hosts

One mount per line. Lines that do not have the form, and mounts whose path does not begin with a
slash, are left out.
-/

namespace RemoteSearch.Unix

open Text

/-- The value of an octal digit. -/
def octalDigit (b : UInt8) : Option Nat :=
  if 48 ≤ b.toNat ∧ b.toNat ≤ 55 then some (b.toNat - 48) else none

/--
The number below 256 that three bytes write in octal. A plus sign may take the place of the first
digit.
-/
def octalByte (a b c : UInt8) : Option UInt8 := do
  let x ← if a = 43 then some 0 else octalDigit a
  let y ← octalDigit b
  let z ← octalDigit c
  let n := 64 * x + 8 * y + z
  if n < 256 then some n.toUInt8 else none

/-- Bytes with each backslash and three octal digits replaced by the byte they stand for. -/
def unescapeBytes : List UInt8 → List UInt8
  | 92 :: a :: b :: c :: r =>
    match octalByte a b c with
    | some v => v :: unescapeBytes r
    | none => 92 :: unescapeBytes (a :: b :: c :: r)
  | x :: r => x :: unescapeBytes r
  | [] => []

/-- A text with its octal escapes undone. -/
def unescapeOctal (l : List Char) : List Char := Utf8.decode (unescapeBytes (Utf8.encode l))

/-- Two words one after the other. -/
def twoWords (l : List (List Char)) : Option (List Char × List Char) :=
  match l with
  | a :: b :: _ => some (a, b)
  | _ => none

/-- Path and type in a line that gives a device, then the path, then the type in brackets. -/
def readBracketed (line : List Char) : Option (List Char × List Char) := do
  let (_, rest) ← cutAt [' ', 'o', 'n', ' '] line
  let (path, options) ← cutAtLast [' ', '('] rest
  some (path, trim (options.takeWhile fun c => c != ',' && c != ')'))

/-- Path and type in a line of the given number, counted from 0. -/
def readMountLine (style : MountStyle) (index : Nat) (line : List Char) :
    Option (List Char × List Char) :=
  match style with
  | .columns =>
    if index < 2 then none
    else
      let named := !(line.head? == some ' ' || line.head? == some '\t')
      twoWords ((wordsOf line).drop (if named then 2 else 1))
  | .table => twoWords ((wordsOf line).drop 1)
  | .escapedTable =>
    (twoWords ((wordsOf line).drop 1)).map fun (path, fsType) => (unescapeOctal path, fsType)
  | .bracketed => readBracketed line

/-- The mount that a line shows, if it shows one whose path begins with a slash. -/
def mountOf (style : MountStyle) (index : Nat) (line : List Char) : Option Mount := do
  let (path, fsType) ← readMountLine style index line
  if !line.all isBlank && path.head? == some '/' then
    some ⟨String.ofList path, String.ofList fsType⟩
  else none

/-- The mounts of a table. -/
def readMounts (style : MountStyle) (output : String) : List Mount :=
  (linesOf output.toList).zipIdx.filterMap fun (line, index) => mountOf style index line

end RemoteSearch.Unix

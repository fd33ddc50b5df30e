/-!
# UTF-16

A decoder over single bytes, in either byte order. A surrogate without its partner and a lone byte
at the end are shown as U+FFFD; a unit that disappoints a high surrogate is read again on its own.
-/

namespace RemoteSearch.Text.Utf16

/-- Which byte of a unit comes first. -/
inductive ByteOrder where
  | little
  | big
  deriving Repr, DecidableEq, Inhabited

/-- The first byte of a unit, if one is pending, and a high surrogate that awaits its partner. -/
structure State where
  byte : Option UInt8 := none
  high : Option Nat := none
  deriving Repr, DecidableEq, Inhabited

/-- The unit made of two bytes in stream order. -/
def unitOf : ByteOrder → UInt8 → UInt8 → Nat
  | .little, a, b => a.toNat + 256 * b.toNat
  | .big, a, b => 256 * a.toNat + b.toNat

/-- The step on a unit when no high surrogate is pending. -/
def begin (u : Nat) : State × List Char :=
  if 0xD800 ≤ u ∧ u ≤ 0xDBFF then ({ high := some u }, [])
  else if 0xDC00 ≤ u ∧ u ≤ 0xDFFF then ({}, ['\uFFFD'])
  else ({}, [Char.ofNat u])

/-- The step on a unit. -/
def stepUnit (high : Option Nat) (u : Nat) : State × List Char :=
  match high with
  | none => begin u
  | some h =>
    if 0xDC00 ≤ u ∧ u ≤ 0xDFFF then
      ({}, [Char.ofNat (0x10000 + (h - 0xD800) * 1024 + (u - 0xDC00))])
    else
      let (s, out) := begin u
      (s, '\uFFFD' :: out)

/-- The step on a byte: the next state and the characters it completes. -/
def step (order : ByteOrder) (s : State) (b : UInt8) : State × List Char :=
  match s.byte with
  | none => ({ s with byte := some b }, [])
  | some a => stepUnit s.high (unitOf order a b)

/-- What is shown for anything that the end of the stream breaks off. -/
def flush (s : State) : List Char :=
  if s.byte.isSome || s.high.isSome then ['\uFFFD'] else []

/-- The state and the characters after a run of bytes. -/
def run (order : ByteOrder) (s : State) (bytes : List UInt8) : State × List Char :=
  let (s, out) := bytes.foldl
    (fun (s, out) b =>
      let (s, cs) := step order s b
      (s, cs.foldl (fun acc c => c :: acc) out)) (s, [])
  (s, out.reverse)

/-- The text of a whole stream. -/
def decode (order : ByteOrder) (bytes : List UInt8) : List Char :=
  let (s, out) := run order {} bytes
  out ++ flush s

/-- The two bytes of a unit in stream order. -/
def unitBytes : ByteOrder → Nat → List UInt8
  | .little, u => [(u % 256).toUInt8, (u / 256).toUInt8]
  | .big, u => [(u / 256).toUInt8, (u % 256).toUInt8]

/-- The units of one character. -/
def unitsOf (c : Char) : List Nat :=
  let n := c.toNat
  if n < 0x10000 then [n] else [0xD800 + (n - 0x10000) / 1024, 0xDC00 + (n - 0x10000) % 1024]

/-- The bytes of a text. -/
def encode (order : ByteOrder) (l : List Char) : List UInt8 :=
  (l.flatMap unitsOf).flatMap (unitBytes order)

end RemoteSearch.Text.Utf16

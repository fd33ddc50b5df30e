/-!
# Decimal numerals

Reading of decimal numbers of a bounded size. Digits are the ten ASCII digits; a plus sign may
stand in front of any number and a minus sign in front of a signed one. Underscores, blanks and
digits of other scripts make no number.
-/

namespace RemoteSearch.Text

/-- The value of an ASCII digit. -/
def digitValue (c : Char) : Option Nat :=
  if '0' ≤ c ∧ c ≤ '9' then some (c.toNat - '0'.toNat) else none

/-- Reads the digits in turn onto `acc`, or stops at anything that is no digit. -/
def readDigits (acc : Nat) : List Char → Option Nat
  | [] => some acc
  | c :: r =>
    match digitValue c with
    | some d => readDigits (10 * acc + d) r
    | none => none

/-- The number written by one or more digits. -/
def natOfDigits (l : List Char) : Option Nat :=
  if l.isEmpty then none else readDigits 0 l

/-- The decimal digits of a number without leading zeros. -/
def digitsOf (n : Nat) : List Char := Nat.toDigits 10 n

/-- A decimal number below `bound`, with an optional plus sign. -/
def readNat (bound : Nat) (l : List Char) : Option Nat :=
  let digits := match l with
    | '+' :: r => r
    | _ => l
  (natOfDigits digits).filter (· < bound)

/-- A decimal number of magnitude below `bound`, or equal to it when negative. -/
def readInt (bound : Nat) (l : List Char) : Option Int :=
  match l with
  | '-' :: r => (natOfDigits r).bind fun n => if n ≤ bound then some (-(n : Int)) else none
  | _ => (readNat bound l).map fun n => (n : Int)

/-- A number below 2⁶⁴. -/
def nat64? (s : String) : Option Nat := readNat UInt64.size s.toList

/-- A signed number of 64 bits. -/
def int64? (s : String) : Option Int := readInt 0x8000_0000_0000_0000 s.toList

end RemoteSearch.Text

/-!
# Base64

The encoding of bytes by 64 characters with padding, and its strict decoding: the length is a
multiple of four, only the two last characters may be padding, and the bits that the padding
leaves over are zero. So every text that decodes is the encoding of its bytes.
-/

namespace RemoteSearch.Text.Base64

/-- The character for six bits. -/
def digitChar (n : Nat) : Char :=
  if n < 26 then Char.ofNat (n + 65)
  else if n < 52 then Char.ofNat (n + 71)
  else if n < 62 then Char.ofNat (n - 4)
  else if n = 62 then '+'
  else '/'

/-- The six bits of a character. -/
def digitValue (c : Char) : Option Nat :=
  if 'A' ≤ c ∧ c ≤ 'Z' then some (c.toNat - 65)
  else if 'a' ≤ c ∧ c ≤ 'z' then some (c.toNat - 71)
  else if '0' ≤ c ∧ c ≤ '9' then some (c.toNat + 4)
  else if c = '+' then some 62
  else if c = '/' then some 63
  else none

/-- The character for six bits reads back as those bits. -/
theorem digitValue_digitChar {n : Nat} (h : n < 64) : digitValue (digitChar n) = some n := by
  have hall : ∀ k ∈ List.range 64, digitValue (digitChar k) = some k := by decide
  exact hall n (List.mem_range.mpr h)

/-- The encoding of bytes. -/
def encode : List UInt8 → List Char
  | [] => []
  | [a] => [digitChar (a.toNat / 4), digitChar (a.toNat % 4 * 16), '=', '=']
  | [a, b] =>
    [digitChar (a.toNat / 4), digitChar (a.toNat % 4 * 16 + b.toNat / 16),
      digitChar (b.toNat % 16 * 4), '=']
  | a :: b :: c :: r =>
    digitChar (a.toNat / 4) :: digitChar (a.toNat % 4 * 16 + b.toNat / 16) ::
      digitChar (b.toNat % 16 * 4 + c.toNat / 64) :: digitChar (c.toNat % 64) :: encode r

/-- The bytes of a text that is a strict encoding. -/
def decode : List Char → Option (List UInt8)
  | [] => some []
  | [a, b, '=', '='] => do
    let a ← digitValue a
    let b ← digitValue b
    if b % 16 = 0 then some [(a * 4 + b / 16).toUInt8] else none
  | [a, b, c, '='] => do
    let a ← digitValue a
    let b ← digitValue b
    let c ← digitValue c
    if c % 4 = 0 then some [(a * 4 + b / 16).toUInt8, (b % 16 * 16 + c / 4).toUInt8] else none
  | a :: b :: c :: d :: r => do
    let a ← digitValue a
    let b ← digitValue b
    let c ← digitValue c
    let d ← digitValue d
    let rest ← decode r
    some ((a * 4 + b / 16).toUInt8 :: (b % 16 * 16 + c / 4).toUInt8 :: (c % 4 * 64 + d).toUInt8 ::
      rest)
  | _ => none

end RemoteSearch.Text.Base64

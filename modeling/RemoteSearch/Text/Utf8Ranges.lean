import RemoteSearch.Text.Unicode.Ranges

/-!
# Ranges of characters in UTF-8

The bytes of the characters in a range. What is encoded in one length is a number in base 64 whose
first digit has a mark of its own, so a range of such numbers is divided like a range of numbers in
any base: what shares the first digit with the lower end, what has a first digit in between, where
the digits that follow are free, and what shares the first digit with the upper end.

## Termination

`divide` recurses on the number of digits after the first.
-/

namespace RemoteSearch.Text.Utf8

/-- The first and the last byte of a range of bytes. -/
abbrev ByteRange := Nat × Nat

/--
The sequences of byte ranges for the numbers from `a` to `b` with `k` digits after the first, whose
byte is the digit and `lead`.
-/
def divide (lead : Nat) : Nat → Nat → Nat → List (List ByteRange)
  | 0, a, b => [[(lead + a, lead + b)]]
  | k + 1, a, b =>
    let m := 1 <<< (6 * (k + 1))
    let under (digit : Nat) (rest : List (List ByteRange)) :=
      rest.map ((lead + digit, lead + digit) :: ·)
    if a / m = b / m then under (a / m) (divide 0x80 k (a % m) (b % m))
    else
      let first := if a % m = 0 then a / m else a / m + 1
      let last := if b % m = m - 1 then b / m + 1 else b / m
      let left := if a % m = 0 then [] else under (a / m) (divide 0x80 k (a % m) (m - 1))
      let right := if b % m = m - 1 then [] else under (b / m) (divide 0x80 k 0 (b % m))
      let middle :=
        if first < last then
          [(lead + first, lead + last - 1) :: List.replicate (k + 1) (0x80, 0xBF)]
        else []
      left ++ middle ++ right

/--
The characters by the length of their encoding, without surrogates: the first and the last, the
mark of the first byte, and how many bytes follow it.
-/
def blocks : List (Nat × Nat × Nat × Nat) :=
  [(0, 0x7F, 0, 0), (0x80, 0x7FF, 0xC0, 1), (0x800, 0xD7FF, 0xE0, 2), (0xE000, 0xFFFF, 0xE0, 2),
    (0x10000, 0x10FFFF, 0xF0, 3)]

/-- The sequences of byte ranges for the characters of a range, in ascending order. -/
def sequences (p : Nat × Nat) : List (List ByteRange) :=
  blocks.flatMap fun (first, last, lead, k) =>
    if max p.1 first ≤ min p.2 last then divide lead k (max p.1 first) (min p.2 last) else []

/-- The sequences of byte ranges for a set of characters, in ascending order. -/
def byteRanges (r : Unicode.Ranges) : List (List ByteRange) := r.pairs.flatMap sequences

example : sequences (0x80, 0x10FFFF) =
    [[(0xC2, 0xDF), (0x80, 0xBF)],
      [(0xE0, 0xE0), (0xA0, 0xBF), (0x80, 0xBF)],
      [(0xE1, 0xEC), (0x80, 0xBF), (0x80, 0xBF)],
      [(0xED, 0xED), (0x80, 0x9F), (0x80, 0xBF)],
      [(0xEE, 0xEF), (0x80, 0xBF), (0x80, 0xBF)],
      [(0xF0, 0xF0), (0x90, 0xBF), (0x80, 0xBF), (0x80, 0xBF)],
      [(0xF1, 0xF3), (0x80, 0xBF), (0x80, 0xBF), (0x80, 0xBF)],
      [(0xF4, 0xF4), (0x80, 0x8F), (0x80, 0xBF), (0x80, 0xBF)]] := by cbv

end RemoteSearch.Text.Utf8

/-!
# Codes of variable length

Bits are numbered from the low end of the first byte. A code is given by the lengths of its words
alone: words of one length are consecutive, in the order of their symbols, and shorter words come
before longer ones.

A code with two or more words has to be complete, so that every run of bits begins with a word.

## Termination

A word is read bit by bit along the list of lengths, numbers by the count of their bits.
-/

namespace RemoteSearch.Gzip

/-- Why reading stops: there are no more bits, or the bits before a position mean nothing. -/
inductive Stop where
  | exhausted
  | corrupt (pos : Nat)
  deriving Repr, DecidableEq, Inhabited

/-- The bit at a position. -/
def bitAt? (bytes : ByteArray) (pos : Nat) : Option Nat :=
  if h : pos / 8 < bytes.size then some ((bytes[pos / 8].toNat >>> (pos % 8)) % 2) else none

/-- The number in the next `n` bits, lowest bit first. -/
def bits (bytes : ByteArray) (pos : Nat) : Nat → Except Stop Nat
  | 0 => .ok 0
  | n + 1 =>
    match bitAt? bytes pos with
    | none => .error .exhausted
    | some b =>
      match bits bytes (pos + 1) n with
      | .ok rest => .ok (b + 2 * rest)
      | .error e => .error e

/-- How many words there are of each length from 1 on, and the symbols in the order of words. -/
structure Code where
  counts : List Nat
  symbols : Array Nat
  deriving Repr, Inhabited

namespace Code

/-- The greatest length of a word. -/
def maxLength : Nat := 15

/-- The code with the given lengths, where 0 stands for no word. -/
def ofLengths? (lengths : List Nat) : Option Code :=
  let sizes := (List.range maxLength).map (· + 1)
  let counts := sizes.map fun n => lengths.count n
  let room := sizes.foldl (fun room n => room + (lengths.count n <<< (maxLength - n))) 0
  if counts.foldl (· + ·) 0 ≤ 1 ∨ room = 1 <<< maxLength then
    let indexed := lengths.zipIdx
    some ⟨counts, (sizes.flatMap fun n => (indexed.filter (·.1 == n)).map (·.2)).toArray⟩
  else none

/--
Reads a word from `pos` on, given the counts of the lengths that are left, the bits so far, the
first word of the current length and the number of words before it. The result is the symbol and
the position after its word.
-/
def readFrom (c : Code) (bytes : ByteArray) (pos word first index : Nat) :
    List Nat → Except Stop (Nat × Nat)
  | [] => .error (.corrupt pos)
  | n :: ns =>
    match bitAt? bytes pos with
    | none => .error .exhausted
    | some b =>
      let word := word + b
      if word < first + n then .ok (c.symbols.getD (index + (word - first)) 0, pos + 1)
      else c.readFrom bytes (pos + 1) (2 * word) (2 * (first + n)) (index + n) ns

/-- Reads a word. -/
def read (c : Code) (bytes : ByteArray) (pos : Nat) : Except Stop (Nat × Nat) :=
  c.readFrom bytes pos 0 0 0 c.counts

end Code

end RemoteSearch.Gzip

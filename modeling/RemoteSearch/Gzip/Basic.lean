import RemoteSearch.Delivery
import RemoteSearch.Gzip.Crc
import RemoteSearch.Gzip.Inflate

/-!
# Compressed files

A compressed file is a head, a stream of blocks, and a tail with the check sum and the length of
what the stream decodes to. Only the first such unit of a file is read. Reading gives the bytes
that can be had and says whether it broke off.

A file can also be written, in blocks that are merely stored.
-/

namespace RemoteSearch.Gzip

/-- The byte at an index. -/
def byteAt? (bytes : ByteArray) (i : Nat) : Option UInt8 :=
  if h : i < bytes.size then some bytes[i] else none

/-- A number of `n` bytes, lowest byte first. -/
def numberAt? (bytes : ByteArray) (i : Nat) : Nat → Option Nat
  | 0 => some 0
  | n + 1 => do
    let b ← byteAt? bytes i
    let rest ← numberAt? bytes (i + 1) n
    some (b.toNat + 256 * rest)

/-- The longest text that a head may hold. -/
def maxHeadText : Nat := 65535

/-- The index after a text that ends in a zero byte and is not too long. -/
def skipText? (bytes : ByteArray) (i : Nat) : Nat → Option Nat
  | 0 => none
  | n + 1 =>
    match byteAt? bytes i with
    | none => none
    | some 0 => some (i + 1)
    | some _ => skipText? bytes (i + 1) n

/-- The index after the head, if there is a head that can be read. -/
def skipHead? (bytes : ByteArray) : Option Nat := do
  let magic ← numberAt? bytes 0 3
  let flags ← numberAt? bytes 3 1
  let _ ← byteAt? bytes 9
  if magic ≠ 0x088B1F ∨ 32 ≤ flags then none
  let i := 10
  let i ← if flags.testBit 2 then do
      let n ← numberAt? bytes i 2
      some (i + 2 + n)
    else some i
  if bytes.size < i then none
  let i ← if flags.testBit 3 then skipText? bytes i (maxHeadText + 1) else some i
  let i ← if flags.testBit 4 then skipText? bytes i (maxHeadText + 1) else some i
  if flags.testBit 1 then do
    let check ← numberAt? bytes i 2
    if (crc32 (bytes.extract 0 i)).toNat % 65536 = check then some (i + 2) else none
  else some i

/-- Whether the tail after a position has the check sum and the length of the output. -/
def tailFits (bytes : ByteArray) (pos : Nat) (output : ByteArray) : Bool :=
  let i := (pos + 7) / 8
  numberAt? bytes i 4 == some (crc32 output).toNat &&
    numberAt? bytes (i + 4) 4 == some (output.size % UInt32.size)

/-- The bytes that a compressed file delivers. -/
def expand (file : ByteArray) : Delivery :=
  match skipHead? file with
  | none => ⟨[], some "invalid gzip header"⟩
  | some start =>
    match inflate file start with
    | .complete pos output =>
      if tailFits file pos output.bytes then ⟨output.bytes.toList, none⟩
      else ⟨output.bytes.toList, some "corrupt gzip stream does not have a matching checksum"⟩
    | .exhausted output => ⟨output.bytes.toList, some "corrupt deflate stream"⟩
    | .corrupt output =>
      ⟨(output.bytes.extract 0 output.handedOn).toList, some "corrupt deflate stream"⟩

/-! ## Writing -/

/-- A number as `n` bytes, lowest byte first. -/
def numberBytes (x : Nat) : Nat → List UInt8
  | 0 => []
  | n + 1 => (x % 256).toUInt8 :: numberBytes (x / 256) n

/-- The greatest number of bytes in a stored block. -/
def maxStored : Nat := 65535

/-- A stored block. -/
def storedBlock (final : Bool) (bytes : List UInt8) : List UInt8 :=
  (if final then 1 else 0) :: numberBytes bytes.length 2 ++
    numberBytes (maxStored - bytes.length) 2 ++ bytes

/-- Stored blocks for all bytes; the last of them is marked. -/
def storedBlocks (bytes : List UInt8) : List UInt8 :=
  if _h : bytes.length ≤ maxStored then storedBlock true bytes
  else storedBlock false (bytes.take maxStored) ++ storedBlocks (bytes.drop maxStored)
termination_by bytes.length
decreasing_by
  simp only [List.length_drop, maxStored] at _h ⊢
  omega

/-- The head of a file about which nothing is said. -/
def plainHead : List UInt8 := [0x1F, 0x8B, 8, 0, 0, 0, 0, 0, 0, 255]

/-- A compressed file for bytes. -/
def pack (bytes : List UInt8) : List UInt8 :=
  plainHead ++ storedBlocks bytes ++ numberBytes (crc32 ⟨bytes.toArray⟩).toNat 4 ++
    numberBytes bytes.length 4

end RemoteSearch.Gzip

/-!
# Check sums

The cyclic redundancy check of 32 bits over the reversed polynomial 0xEDB88320, a byte at a time
from a table of 256 words.
-/

namespace RemoteSearch.Gzip

/-- The remainder after `n` more zero bits. -/
def shiftBits : Nat → UInt32 → UInt32
  | 0, c => c
  | n + 1, c => shiftBits n (if c &&& 1 == 1 then (c >>> 1) ^^^ 0xEDB88320 else c >>> 1)

/-- The remainders of the single bytes. -/
def crcTable : Array UInt32 := (Array.range 256).map fun n => shiftBits 8 n.toUInt32

/-- The remainder after one more byte. -/
def crcStep (c : UInt32) (b : UInt8) : UInt32 :=
  crcTable.getD ((c ^^^ b.toUInt32) &&& 0xFF).toNat 0 ^^^ (c >>> 8)

/-- The check sum of bytes. -/
def crc32 (bytes : ByteArray) : UInt32 := bytes.foldl crcStep 0xFFFFFFFF ^^^ 0xFFFFFFFF

end RemoteSearch.Gzip

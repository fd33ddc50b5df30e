/-!
# Lines of bytes
-/

namespace RemoteSearch.Machine

/-- The lines of some bytes without their line feeds, and the bytes after the last one. -/
def cutLines (l : List UInt8) : List (List UInt8) × List UInt8 :=
  let (lines, last) := l.foldl
    (fun (lines, line) b => if b = 10 then (line.reverse :: lines, []) else (lines, b :: line))
    (([] : List (List UInt8)), ([] : List UInt8))
  (lines.reverse, last.reverse)

/-- The lines of some bytes; what comes after the last line feed is one too. -/
def linesOf (l : List UInt8) : List (List UInt8) :=
  let (lines, last) := cutLines l
  if last.isEmpty then lines else lines ++ [last]

/-- Lines with their line feeds. -/
def joinLines (l : List (List UInt8)) : List UInt8 := l.flatMap (· ++ [10])

/-- Bytes as characters of one byte each, which is how patterns see them. -/
def asChars (l : List UInt8) : List Char := l.map fun b => Char.ofNat b.toNat

end RemoteSearch.Machine

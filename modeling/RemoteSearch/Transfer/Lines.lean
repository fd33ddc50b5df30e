import RemoteSearch.Gzip.Basic
import RemoteSearch.Text.Blank
import RemoteSearch.Text.Encoding
import RemoteSearch.Text.Split

/-!
# Lines of a stream

A stream of bytes as lines of text. The first 512 bytes tell the encoding; if the stream fails
before it has delivered as many, there are no lines at all. A mark at the start is dropped, and so
is a second one after it. A line loses the line feed at its end and all carriage returns before it.

A stream that ends may end in a line without a line feed. A stream that fails gives its complete
lines only.
-/

namespace RemoteSearch.Transfer

open Text

/-- How many bytes tell the encoding. -/
def sampleSize : Nat := 512

/-- The lines of a stream, and whether it failed after them. -/
structure LineSequence where
  lines : List String
  failed : Bool
  deriving Repr, DecidableEq, Inhabited

/-- A line without line feeds and carriage returns at its end. -/
def chomp (l : List Char) : List Char := dropEndWhile (fun c => c == '\n' || c == '\r') l

/-- The lines of a text that end in a line feed. -/
def closedLines (l : List Char) : List (List Char) := (splitAt '\n' l).dropLast.map chomp

/-- The text after the last line feed. -/
def openLine (l : List Char) : List Char := (splitAt '\n' l).getLast?.getD []

/-- The lines of a whole text: the closed ones, and what comes after them unless it is empty. -/
def allLines (l : List Char) : List (List Char) :=
  if (openLine l).isEmpty then closedLines l else closedLines l ++ [chomp (openLine l)]

/-- The encoding of a stream. -/
def encodingOf (bytes : List UInt8) : Encoding :=
  (Encoding.detect? (bytes.take sampleSize)).getD .utf8

/-- The bytes of a stream after its marks. -/
def unmarked (bytes : List UInt8) : List UInt8 :=
  let e := encodingOf bytes
  e.dropMark (e.dropMark bytes)

/-- The lines of a stream, unless it fails too early. -/
def LineSequence.ofDelivery? (d : Delivery) : Option LineSequence :=
  let e := encodingOf d.bytes
  let bytes := unmarked d.bytes
  if d.isBroken then
    if d.bytes.length < sampleSize then none
    else some ⟨(closedLines (e.decodePart bytes)).map String.ofList, true⟩
  else some ⟨(allLines (e.decode bytes)).map String.ofList, false⟩

/-- The lines of a compressed file, unless it fails too early. -/
def LineSequence.ofFile? (file : List UInt8) : Option LineSequence :=
  ofDelivery? (Gzip.expand ⟨file.toArray⟩)

end RemoteSearch.Transfer

import RemoteSearch.Text.Utf16
import RemoteSearch.Text.Utf8

/-!
# Encodings

The encodings in which a stream may come, and how one is told from the first bytes of a stream. A
byte order mark decides. Without one, a stream in which every second byte is mostly zero is taken
for UTF-16.
-/

namespace RemoteSearch.Text

/-- An encoding of text. -/
inductive Encoding where
  | utf8
  | utf16 (order : Utf16.ByteOrder)
  deriving Repr, DecidableEq, Inhabited

namespace Encoding

/-- The name of the encoding. -/
def name : Encoding → String
  | utf8 => "UTF-8"
  | utf16 .little => "UTF-16LE"
  | utf16 .big => "UTF-16BE"

/-- The byte order mark, that is U+FEFF in the encoding. -/
def mark : Encoding → List UInt8
  | utf8 => [0xEF, 0xBB, 0xBF]
  | utf16 .little => [0xFF, 0xFE]
  | utf16 .big => [0xFE, 0xFF]

/-- The encoding whose mark the bytes begin with. -/
def ofMark? (bytes : List UInt8) : Option Encoding :=
  [utf8, utf16 .little, utf16 .big].find? fun e => e.mark.isPrefixOf bytes

/-- The number of pairs of bytes, and how many have a zero in the first and in the second place. -/
def zeros : List UInt8 → Nat × Nat × Nat
  | a :: b :: r =>
    let (pairs, first, second) := zeros r
    (pairs + 1, (if a = 0 then first + 1 else first), (if b = 0 then second + 1 else second))
  | _ => (0, 0, 0)

/-- The encoding told from the first bytes of a stream, `none` if nothing speaks against UTF-8. -/
def detect? (bytes : List UInt8) : Option Encoding :=
  match ofMark? bytes with
  | some e => some e
  | none =>
    let (pairs, first, second) := zeros bytes
    if pairs < 2 * second ∧ 4 * first < pairs then some (utf16 .little)
    else if pairs < 2 * first ∧ 4 * second < pairs then some (utf16 .big)
    else none

/-- Bytes without a mark at their start. -/
def dropMark (e : Encoding) (bytes : List UInt8) : List UInt8 :=
  if e.mark.isPrefixOf bytes then bytes.drop e.mark.length else bytes

/-- The text of a whole stream. -/
def decode : Encoding → List UInt8 → List Char
  | utf8, bytes => Utf8.decode bytes
  | utf16 order, bytes => Utf16.decode order bytes

/-- The bytes of a text, without a mark. -/
def encode : Encoding → List Char → List UInt8
  | utf8, text => Utf8.encode text
  | utf16 order, text => Utf16.encode order text

/-- The text of the first part of a stream, without what is not complete yet. -/
def decodePart : Encoding → List UInt8 → List Char
  | utf8, bytes => (Utf8.run .start bytes).2
  | utf16 order, bytes => (Utf16.run order {} bytes).2

end Encoding

end RemoteSearch.Text

import RemoteSearch.Transfer.Lines

/-!
# A stream that is read line by line

The lines of a stream as a reader gets them, one at a time. The reader counts the lines it has been
given. It is done when there is nothing left, or when the stream fails; then it keeps the reason,
and what the stream has delivered of an unfinished line is lost.
-/

namespace RemoteSearch.Transfer

open Text

/-- A stream of lines, as far as it has been read. -/
structure LineStream where
  /-- The text that has not been read yet. -/
  text : List Char
  /-- Why the stream fails after the text, if it does. -/
  failure : Option String
  linesRead : Nat := 0
  /-- The failure that reading has met. -/
  error : Option String := none
  done : Bool := false
  deriving Repr, DecidableEq, Inhabited

namespace LineStream

/-- The next line. -/
def next (s : LineStream) : Option String × LineStream :=
  if s.done then (none, s)
  else
    match cutAt ['\n'] s.text with
    | some (line, rest) =>
      (some (String.ofList (chomp line)), { s with text := rest, linesRead := s.linesRead + 1 })
    | none =>
      match s.failure with
      | some reason => (none, { s with text := [], error := some reason, done := true })
      | none =>
        if s.text.isEmpty then (none, { s with done := true })
        else
          (some (String.ofList (chomp s.text)),
            { s with text := [], linesRead := s.linesRead + 1 })

/-- The stream of lines in what a source delivers, unless it fails too early. -/
def ofDelivery? (d : Delivery) : Option LineStream :=
  let e := encodingOf d.bytes
  let bytes := unmarked d.bytes
  if d.isBroken then
    if d.bytes.length < sampleSize then none
    else some { text := e.decodePart bytes, failure := d.failure }
  else some { text := e.decode bytes, failure := none }

end LineStream

end RemoteSearch.Transfer

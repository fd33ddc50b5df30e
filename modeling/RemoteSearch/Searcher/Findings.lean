import RemoteSearch.Platform
import RemoteSearch.Transfer.Lines

/-!
# Findings

The records in the output of a search.
-/

namespace RemoteSearch.Searcher

open Calendar (Instant)

/-- What was read from the output of a search. -/
structure Findings where
  records : List Metadata := []
  /-- How many records could not be decoded. -/
  skipped : Nat := 0
  /-- Whether the output was read to its end. -/
  complete : Bool := false
  deriving Inhabited

namespace Findings

/-- The findings of a sequence of lines. -/
def ofLines (p : Platform) (now : Instant) (l : Transfer.LineSequence) : Findings :=
  let found := p.readRecords now l.lines
  { records := found.filterMap Except.toOption
    skipped := found.countP fun r => r.toOption.isNone
    complete := !l.failed }

/-- The findings of a compressed file; there are none if it breaks off too early. -/
def ofFile (p : Platform) (now : Instant) (file : List UInt8) : Findings :=
  match Transfer.LineSequence.ofFile? file with
  | some l => ofLines p now l
  | none => {}

/-- The paths that were found. -/
def paths (f : Findings) : List String := f.records.map Metadata.path

end Findings

end RemoteSearch.Searcher

import RemoteSearch.Cache
import RemoteSearch.Metadata
import RemoteSearch.Mount

/-!
# Memory of a searcher

What a searcher remembers from one operation to the next.

Records that belong to handles are kept in numbered places. A handle holds the number, so that all
copies of one handle share what any of them has found out.
-/

namespace RemoteSearch.Searcher

/-- How often things have happened. -/
structure Counters where
  /-- Searches that came as far as to run their command. -/
  executions : Nat := 0
  cacheHits : Nat := 0
  cleanups : Nat := 0
  /-- Records that could not be decoded. -/
  skippedRecords : Nat := 0
  deriving Repr, DecidableEq, Inhabited

/-- The memory of a searcher. -/
structure Memory where
  cache : Cache := {}
  /-- The mount table, once it is known. -/
  mounts : Option (List Mount) := none
  counters : Counters := {}
  /-- Whether the helper module has been loaded. -/
  helperLoaded : Bool := false
  /-- The record in each place, if it is known. -/
  records : Array (Option Metadata) := #[]
  /-- The last stamp of a temporary file. -/
  lastStamp : Nat := 0
  deriving Inhabited

namespace Memory

/-- The record in a place, if there is one. -/
def record? (m : Memory) (place : Nat) : Option Metadata := (m.records[place]?).join

/-- Puts a record into a place. -/
def setRecord (m : Memory) (place : Nat) (record : Metadata) : Memory :=
  { m with records := m.records.setIfInBounds place (some record) }

/-- Counts something. -/
def count (m : Memory) (f : Counters → Counters) : Memory := { m with counters := f m.counters }

/-- A new place has the number of the places before it. -/
theorem record?_push (m : Memory) (r : Option Metadata) (place : Nat) :
    ({ m with records := m.records.push r } : Memory).record? place =
      if place = m.records.size then r else m.record? place := by
  simp only [record?, Array.getElem?_push]
  split <;> simp

/-- A record that is put into its place is found there, and no other changes. -/
theorem record?_setRecord (m : Memory) (place other : Nat) (r : Metadata)
    (h : place < m.records.size) :
    (m.setRecord place r).record? other = if other = place then some r else m.record? other := by
  simp only [record?, setRecord, Array.getElem?_setIfInBounds]
  by_cases ho : other = place
  · subst ho
    simp [h]
  · simp [ho, Ne.symm ho]

end Memory

end RemoteSearch.Searcher

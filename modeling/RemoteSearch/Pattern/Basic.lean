import RemoteSearch.Pattern.Match
import RemoteSearch.Pattern.Parser
import RemoteSearch.Pattern.Room

/-!
# Patterns with their source

A pattern as the caller wrote it together with what it reads as. The tree follows from the source,
so two patterns are equal exactly when they are written alike.
-/

namespace RemoteSearch

open Pattern (Node Reject Grammar)

/-- A text that reads as a pattern. -/
structure Regex where
  source : String
  node : Node
  read_eq : Node.read {} source.toList = .ok node

namespace Regex

/-- The pattern written by a text, or why it is none. -/
def ofSource (source : String) : Except Reject Regex :=
  match h : Node.read {} source.toList with
  | .ok node => if node.shape.fits then .ok ⟨source, node, h⟩ else .error .tooLarge
  | .error e => .error e

/-- A text that can be read is the source of a pattern. -/
theorem exists_source (source : String) (h : (Node.read {} source.toList).isOk = true) :
    ∃ p : Regex, p.source = source := by
  cases hn : Node.read {} source.toList with
  | ok node => exact ⟨⟨source, node, hn⟩, rfl⟩
  | error e =>
    rw [hn] at h
    cases h

/-- Patterns with one source are one pattern. -/
theorem ext_source {p q : Regex} (h : p.source = q.source) : p = q := by
  obtain ⟨s, n, hn⟩ := p
  obtain ⟨s', n', hn'⟩ := q
  simp only at h
  subst h
  have : (Except.ok n : Except Reject Node) = .ok n' := hn.symm.trans hn'
  simp only [Except.ok.injEq] at this
  subst this
  rfl

instance : DecidableEq Regex := fun p q =>
  if h : p.source = q.source then isTrue (ext_source h)
  else isFalse fun e => h (congrArg source e)

/-- Whether the pattern matches somewhere in a text. -/
def found (p : Regex) (s : String) : Bool := p.node.found s.toList

end Regex

end RemoteSearch

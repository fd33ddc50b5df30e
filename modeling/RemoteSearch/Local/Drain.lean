import RemoteSearch.Text.Utf8

/-!
# Output of a running command

What a command writes is taken up line by line. A line counts when its line feed has arrived; the
last one also counts without it when the output ends. Bytes that are no text are replaced.
-/

namespace RemoteSearch.Local

open Text

/-- The first line of some bytes with its line feed, and the bytes after it. -/
def cutLine : List UInt8 → Option (List UInt8 × List UInt8)
  | [] => none
  | b :: r => if b = 10 then some ([b], r) else (cutLine r).map fun p => (b :: p.1, p.2)

/-- A line takes at least one byte. -/
theorem length_lt_of_cutLine {l a r : List UInt8} (h : cutLine l = some (a, r)) :
    r.length < l.length := by
  induction l generalizing a with
  | nil => simp [cutLine] at h
  | cons b l ih =>
    rw [cutLine] at h
    split at h
    · simp only [Option.some.injEq, Prod.mk.injEq] at h
      simp [h.2]
    · obtain ⟨p, hp, he⟩ := Option.map_eq_some_iff.1 h
      simp only [Prod.mk.injEq] at he
      have := ih (a := p.1) (by rw [hp, ← he.2])
      simp only [List.length_cons]
      omega

/-- The text of the lines that have arrived, and the bytes of the line that has not. -/
def drainFrom (text : List Char) (arrived : List UInt8) : List Char × List UInt8 :=
  match h : cutLine arrived with
  | none => (text, arrived)
  | some (line, rest) =>
    have : rest.length < arrived.length := length_lt_of_cutLine h
    drainFrom (text ++ Utf8.decode line) rest
termination_by arrived.length

/-- The text of what has arrived, of which the last line counts if the output has ended. -/
def drain (arrived : List UInt8) (ended : Bool) : List Char :=
  let (text, rest) := drainFrom [] arrived
  if ended then text ++ Utf8.decode rest else text

end RemoteSearch.Local

import Mathlib.Data.List.Induction
import RemoteSearch.Path
import RemoteSearch.Query

/-!
# Paths within roots

What it takes for a path to lie within a root. The delimiters at the end of the root make no
difference, and a search begins at its root without them.
-/

namespace RemoteSearch.Path

open Text

variable {d : Char} {path root : List Char}

theorem dropTrailing_append_self (d : Char) (l : List Char) :
    dropTrailing d (l ++ [d]) = dropTrailing d l := by
  simp [dropTrailing, dropEndWhile]

/-- A path is what is left without the delimiters at its end, and these. -/
theorem exists_dropTrailing (d : Char) (l : List Char) :
    ∃ n, l = dropTrailing d l ++ List.replicate n d := by
  induction l using List.reverseRecOn with
  | nil => exact ⟨0, rfl⟩
  | append_singleton l c ih =>
    by_cases hc : c = d
    · subst hc
      obtain ⟨n, hn⟩ := ih
      refine ⟨n + 1, ?_⟩
      rw [dropTrailing_append_self, List.replicate_succ', ← List.append_assoc, ← hn]
    · refine ⟨0, ?_⟩
      rw [dropTrailing, dropEndWhile_append_singleton (by simpa using hc)]
      simp

/-- What begins with a root and a delimiter lies within the root. -/
theorem isWithinText_of_prefix (h : root ++ [d] <+: path) : isWithinText d path root = true := by
  obtain ⟨rest, rfl⟩ := h
  obtain ⟨n, hn⟩ := exists_dropTrailing d root
  have hpath : root ++ [d] ++ rest = dropTrailing d root ++ d :: (List.replicate n d ++ rest) := by
    calc root ++ [d] ++ rest
      _ = dropTrailing d root ++ List.replicate n d ++ [d] ++ rest := by rw [← hn]
      _ = dropTrailing d root ++ (List.replicate (n + 1) d ++ rest) := by
        rw [List.replicate_succ']
        simp
      _ = _ := by rw [List.replicate_succ, List.cons_append]
  rw [isWithinText, hpath]
  cases hroot : dropTrailing d root with
  | nil => simp
  | cons c l => simp

/-- What lies within a root begins with it. -/
theorem prefix_of_isWithinText (h : isWithinText d path root = true) :
    dropTrailing d root <+: path := by
  unfold isWithinText at h
  dsimp only at h
  split at h
  · rename_i he
    rw [List.isEmpty_iff.mp he]
    exact List.nil_prefix
  · rw [Bool.and_eq_true, List.isPrefixOf_iff_prefix] at h
    exact h.1

/-- Roots that differ at most in delimiters at their ends are one root. -/
theorem isWithinText_congr {root' : List Char} (h : dropTrailing d root = dropTrailing d root') :
    isWithinText d path root = isWithinText d path root' := by
  rw [isWithinText, isWithinText, h]

end RemoteSearch.Path

namespace RemoteSearch.Query

/-- A search begins where its root does, and at the root of the host if it has none. -/
theorem head?_normalizedRoot (q : Query) :
    (q.normalizedRoot '/').toList.head? = some (q.root.toList.head?.getD '/') := by
  obtain ⟨n, hn⟩ := Path.exists_dropTrailing '/' q.root.toList
  rw [normalizedRoot, String.toList_ofList, normalizedRootText]
  cases hdrop : Path.dropTrailing '/' q.root.toList with
  | nil =>
    -- the root of the host, written with any number of slashes
    rw [hdrop, List.nil_append] at hn
    rw [hn]
    cases n <;> simp [List.replicate_succ]
  | cons c l =>
    rw [hdrop] at hn
    rw [hn]
    simp

end RemoteSearch.Query

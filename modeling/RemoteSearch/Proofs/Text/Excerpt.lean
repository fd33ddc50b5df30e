import RemoteSearch.Text.Excerpt

/-!
# Cuts between characters

An excerpt is as long as the limit allows: it is the greatest of the beginnings of a text that fit.
The same beginning is found by looking for a place to cut, from the limit downwards, which ends
after at most three steps since no character has more than four bytes.

* `prefix_fitting_iff`: what fits is the greatest beginning within the limit.
* `lastCut?_eq`: the downward search finds the end of what fits, in every text.
* `excerpt_is_longest_beginning`: what an excerpt is, and that the search never goes wrong.
-/

namespace RemoteSearch.Text

variable {n : Nat} {l a b front : List Char}

open Utf8

/-! ## The longest beginning that fits -/

/-- A beginning that is not too large is a beginning of what fits. -/
theorem prefix_fitting (h : front <+: l) (hs : size front ≤ n) : front <+: fitting n l := by
  induction l generalizing n front with
  | nil =>
    rw [List.prefix_nil.mp h]
    exact List.nil_prefix
  | cons c r ih =>
    cases front with
    | nil => exact List.nil_prefix
    | cons d front =>
      obtain ⟨rfl, htail⟩ := List.cons_prefix_cons.mp h
      rw [size_cons] at hs
      rw [fitting, if_pos (by omega)]
      exact List.cons_prefix_cons.mpr ⟨rfl, ih htail (by omega)⟩

/-- **What fits is the greatest beginning within the limit.** -/
theorem prefix_fitting_iff : front <+: fitting n l ↔ front <+: l ∧ size front ≤ n := by
  constructor
  · intro h
    have hl := fitting_prefix n l
    refine ⟨h.trans hl, ?_⟩
    obtain ⟨rest, hrest⟩ := h
    have hle := size_fitting_le n l
    rw [← hrest, size_append] at hle
    omega
  · rintro ⟨h, hs⟩
    exact prefix_fitting h hs

/-- No more than three bytes are wasted on a text that does not fit. -/
theorem le_size_fitting (h : n < size l) : n ≤ size (fitting n l) + 3 := by
  induction l generalizing n with
  | nil => exact absurd h (Nat.not_lt_zero n)
  | cons c r ih =>
    rw [size_cons] at h
    have hc := charSize_mem c
    rw [fitting]
    split
    · have := ih (n := n - charSize c) (by omega)
      rw [size_cons]
      omega
    · omega

/-! ## Looking for a place to cut -/

/-- The last place up to a number of bytes where a text can be cut, looked for downwards. -/
def lastCut? (l : List Char) : Nat → Option Nat
  | 0 => if (splitAtByte 0 l).isSome then some 0 else none
  | n + 1 => if (splitAtByte (n + 1) l).isSome then some (n + 1) else lastCut? l n

/-- Where a text is cut after all bytes that are allowed, nothing more fits. -/
theorem fitting_of_splitAtByte (h : splitAtByte n l = some (a, b)) : fitting n l = a := by
  obtain ⟨rfl, rfl⟩ := splitAtByte_eq_some_iff.mp h
  obtain ⟨rest, hrest⟩ := prefix_fitting (n := size a) (List.prefix_append a b) (Nat.le_refl _)
  have hle := size_fitting_le (size a) (a ++ b)
  rw [← hrest, size_append] at hle
  cases rest with
  | nil => rw [← hrest, List.append_nil]
  | cons c rest =>
    have hc := charSize_mem c
    rw [size_cons] at hle
    omega

/-- Where a text cannot be cut, one byte less allows as much. -/
theorem fitting_succ (h : splitAtByte (n + 1) l = none) : fitting (n + 1) l = fitting n l := by
  have hne : size (fitting (n + 1) l) ≠ n + 1 := by
    intro hs
    obtain ⟨rest, hrest⟩ := fitting_prefix (n + 1) l
    rw [splitAtByte_eq_some_iff.mpr ⟨hrest, hs⟩] at h
    cases h
  have hle := size_fitting_le (n + 1) l
  have hdown : fitting (n + 1) l <+: fitting n l := by
    have hl := fitting_prefix (n + 1) l
    exact prefix_fitting hl (by omega)
  have hup : fitting n l <+: fitting (n + 1) l := by
    have hl := fitting_prefix n l
    exact prefix_fitting hl (Nat.le_succ_of_le (size_fitting_le n l))
  exact hdown.eq_of_length (Nat.le_antisymm hdown.length_le hup.length_le)

/-- **The downward search finds the end of what fits.** -/
theorem lastCut?_eq (l : List Char) (n : Nat) : lastCut? l n = some (size (fitting n l)) := by
  induction n with
  | zero =>
    have hcut : splitAtByte 0 l = some ([], l) := splitAtByte_eq_some_iff.mpr ⟨rfl, rfl⟩
    rw [lastCut?, hcut, fitting_of_splitAtByte hcut]
    rfl
  | succ n ih =>
    rw [lastCut?]
    cases hcut : splitAtByte (n + 1) l with
    | none => rw [fitting_succ hcut, ← ih]; rfl
    | some p =>
      obtain ⟨a, b⟩ := p
      rw [fitting_of_splitAtByte hcut, (splitAtByte_eq_some_iff.mp hcut).2]
      rfl

/--
An excerpt that is made by cutting the bytes of a text. It fails if the place for the cut is not
found, does not lie in the text or lies inside a character, or if fewer bytes are there than shown.
-/
def cutExcerpt? (l : List Char) : Option (List Char) :=
  if size l ≤ excerptLimit then some l
  else do
    let place ← lastCut? l excerptLimit
    let (shown, _) ← splitAtByte place l
    if place ≤ size l then some (shown ++ s!"... <{size l - place} more bytes>".toList) else none

/-- **Cutting never fails**, and gives the excerpt. -/
theorem cutExcerpt?_eq (l : List Char) : cutExcerpt? l = some (excerptOf l) := by
  unfold cutExcerpt? excerptOf
  split
  · rfl
  · next h =>
    obtain ⟨rest, hrest⟩ := fitting_prefix excerptLimit l
    have hcut := splitAtByte_eq_some_iff.mpr ⟨hrest, rfl⟩
    have hle := size_fitting_le excerptLimit l
    simp only [lastCut?_eq, hcut, Option.bind_eq_bind, Option.bind_some]
    rw [if_pos (by omega)]

theorem excerptOf_of_fits (h : size l ≤ excerptLimit) : excerptOf l = l := if_pos h

theorem excerptOf_of_not_fits (h : excerptLimit < size l) (hl : fitting excerptLimit l ++ b = l) :
    excerptOf l = fitting excerptLimit l ++ s!"... <{size b} more bytes>".toList := by
  have hsize : size l - size (fitting excerptLimit l) = size b := by
    have := size_append (fitting excerptLimit l) b
    rw [hl] at this
    omega
  unfold excerptOf
  rw [if_neg (Nat.not_le.mpr h), ← hsize]

/--
**An excerpt is cut between two characters.** Cutting never goes wrong: the search for the place
ends in the text and between two characters. A text of at most 200 bytes is shown as it is. Of a
longer one the excerpt shows the greatest beginning of at most 200 bytes, which has no less than
197, and then the number of the bytes that are left out: with those shown, they are all.
-/
theorem excerpt_is_longest_beginning (s : String) :
    cutExcerpt? s.toList = some (excerpt s).toList ∧
      (size s.toList ≤ 200 ∧ excerpt s = s ∨
        200 < size s.toList ∧ ∃ shown rest, s.toList = shown ++ rest ∧
          197 ≤ size shown ∧ size shown ≤ 200 ∧
          (∀ front, front <+: s.toList ∧ size front ≤ 200 ↔ front <+: shown) ∧
          (excerpt s).toList = shown ++ s!"... <{size rest} more bytes>".toList ∧
          size shown + size rest = size s.toList) := by
  have hexcerpt : (excerpt s).toList = excerptOf s.toList := String.toList_ofList
  refine ⟨by rw [cutExcerpt?_eq, hexcerpt], ?_⟩
  rcases Nat.lt_or_ge 200 (size s.toList) with h | h
  · obtain ⟨rest, hrest⟩ := fitting_prefix 200 s.toList
    have hlow := le_size_fitting h
    refine Or.inr ⟨h, fitting 200 s.toList, rest, hrest.symm, by omega, size_fitting_le _ _,
      fun front => prefix_fitting_iff.symm, ?_, ?_⟩
    · rw [hexcerpt]
      exact excerptOf_of_not_fits h hrest
    · rw [← size_append, hrest]
  · refine Or.inl ⟨h, ?_⟩
    rw [excerpt, excerptOf_of_fits h, String.ofList_toList]

end RemoteSearch.Text

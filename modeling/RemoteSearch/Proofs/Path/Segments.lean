import Mathlib.Data.List.DropRight
import RemoteSearch.Proofs.Path

/-!
# Paths and their segments

A path that begins with its delimiter and never has two of them side by side is, but for a
delimiter at its end, its segments with a delimiter in front of each. For such paths the test on
texts that is made for roots is a test on segments.

* `segments_append`: the segments of a path that is cut at a delimiter.
* `IsTidy.exists_end`: a tidy path is given by its segments.
* `isWithinText_iff_segments`: to lie within a tidy root is to begin with its segments.
-/

namespace RemoteSearch

open Text

variable {d : Char} {l s path root : List Char} {names : List (List Char)}

/-! ## Pieces -/

/-- **Splitting at one of the delimiters** splits what is before and what is after it. -/
theorem Text.splitAt_append (d : Char) (l r : List Char) :
    splitAt d (l ++ d :: r) = splitAt d l ++ splitAt d r := by
  induction l with
  | nil => exact splitAt_cons_self d r
  | cons c l ih =>
    by_cases hc : c = d
    · subst hc
      rw [List.cons_append, splitAt_cons_self, splitAt_cons_self, ih, List.cons_append]
    · obtain ⟨p, ps, hl, hcl⟩ := splitAt_cons_of_ne hc l
      obtain ⟨q, qs, hr, hcr⟩ := splitAt_cons_of_ne hc (l ++ d :: r)
      rw [ih, hl, List.cons_append] at hr
      obtain ⟨rfl, rfl⟩ := List.cons.inj hr
      rw [List.cons_append, hcr, hcl, List.cons_append]

/-- No piece holds the delimiter. -/
theorem Text.notMem_of_mem_splitAt (h : s ∈ splitAt d l) : d ∉ s := by
  induction l generalizing s with
  | nil =>
    rw [splitAt_nil, List.mem_singleton] at h
    simp [h]
  | cons c l ih =>
    by_cases hc : c = d
    · subst hc
      rw [splitAt_cons_self] at h
      rcases List.mem_cons.mp h with rfl | h
      · exact List.not_mem_nil
      · exact ih h
    · obtain ⟨p, ps, hl, hcl⟩ := splitAt_cons_of_ne hc l
      rw [hcl] at h
      rw [hl] at ih
      rcases List.mem_cons.mp h with rfl | h
      · exact List.not_mem_cons_of_ne_of_not_mem (Ne.symm hc) (ih List.mem_cons_self)
      · exact ih (List.mem_cons_of_mem _ h)

/-- With a delimiter in front of the whole, a join has one in front of each piece. -/
theorem Text.cons_joinWith (h : names ≠ []) : d :: joinWith d names = names.flatMap (d :: ·) := by
  induction names with
  | nil => exact absurd rfl h
  | cons p names ih =>
    cases names with
    | nil => simp [joinWith]
    | cons q names =>
      rw [List.flatMap_cons, ← ih (List.cons_ne_nil q names), joinWith, List.cons_append]

/-- What is joined holds no characters but those of the pieces and the delimiter. -/
theorem Text.notMem_joinWith {c : Char} (hc : c ≠ d) (h : ∀ s ∈ names, c ∉ s) :
    c ∉ joinWith d names := by
  fun_induction joinWith d names with
  | case1 => exact List.not_mem_nil
  | case2 p => exact h p List.mem_cons_self
  | case3 p q names ih =>
    obtain ⟨hp, hrest⟩ := List.forall_mem_cons.mp h
    simp [hp, hc, ih hrest]

namespace Path

/-! ## Segments -/

/-- Whether a text can be a segment. -/
def IsSegment (d : Char) (s : List Char) : Prop := s ≠ [] ∧ d ∉ s

instance (d : Char) (s : List Char) : Decidable (IsSegment d s) :=
  inferInstanceAs (Decidable (s ≠ [] ∧ d ∉ s))

theorem isSegment_of_mem (h : s ∈ segments d l) : IsSegment d s := by
  obtain ⟨hmem, hne⟩ := List.mem_filter.mp h
  exact ⟨by simpa using hne, notMem_of_mem_splitAt hmem⟩

/-- A delimiter parts the segments before it from those after it. -/
theorem segments_append (d : Char) (l r : List Char) :
    segments d (l ++ d :: r) = segments d l ++ segments d r := by
  rw [segments, splitAt_append, List.filter_append, segments, segments]

@[simp] theorem segments_nil (d : Char) : segments d [] = [] := rfl

theorem segments_cons_self (d : Char) (l : List Char) : segments d (d :: l) = segments d l :=
  segments_append d [] l

theorem segments_of_isSegment (h : IsSegment d s) : segments d s = [s] := by
  rw [segments, splitAt_of_notMem h.2]
  simp [h.1]

/-- **Segments that are joined come back.** -/
theorem segments_joinWith (h : ∀ s ∈ names, IsSegment d s) :
    segments d (joinWith d names) = names := by
  cases names with
  | nil => rfl
  | cons p names =>
    rw [segments, splitAt_joinWith (List.cons_ne_nil _ _) fun s hs => (h s hs).2]
    exact List.filter_eq_self.mpr fun s hs => by simpa using (h s hs).1

/-- What is joined from segments does not begin with the delimiter. -/
theorem head?_joinWith (h : ∀ s ∈ names, IsSegment d s) : (joinWith d names).head? ≠ some d := by
  cases names with
  | nil => exact Option.some_ne_none d ∘ Eq.symm
  | cons s names =>
    obtain ⟨hne, hd⟩ := h s List.mem_cons_self
    obtain ⟨c, s, rfl⟩ := List.exists_cons_of_ne_nil hne
    have hhead : (joinWith d ((c :: s) :: names)).head? = some c := by
      cases names <;> rfl
    rw [hhead]
    exact fun he => hd (by simp [Option.some.inj he])

/-- Delimiters at the end make no difference. -/
theorem segments_dropTrailing (d : Char) (l : List Char) :
    segments d (dropTrailing d l) = segments d l := by
  obtain ⟨n, hn⟩ := exists_dropTrailing d l
  have hends : segments d (dropTrailing d l ++ List.replicate n d) =
      segments d (dropTrailing d l) := by
    clear hn
    induction n with
    | zero => rw [List.replicate_zero, List.append_nil]
    | succ n ih =>
      rw [List.replicate_succ', ← List.append_assoc, segments_append, ih, segments_nil,
        List.append_nil]
  rw [← hends, ← hn]

/-! ## Tidy paths -/

/-- A path that begins with the delimiter and has no empty segment but perhaps at its end. -/
structure IsTidy (d : Char) (l : List Char) : Prop where
  rooted : l.head? = some d
  inner_ne : ∀ s ∈ (splitAt d l).tail.dropLast, s ≠ []

theorem isTidy_iff :
    IsTidy d l ↔ l.head? = some d ∧ ∀ s ∈ (splitAt d l).tail.dropLast, s ≠ [] :=
  ⟨fun h => ⟨h.rooted, h.inner_ne⟩, fun h => ⟨h.1, h.2⟩⟩

instance (d : Char) (l : List Char) : Decidable (IsTidy d l) :=
  decidable_of_iff _ isTidy_iff.symm

/-- **A tidy path is given by its segments**, but for a delimiter at its end. -/
theorem IsTidy.exists_end (h : IsTidy d l) :
    ∃ tail, (tail = [] ∨ tail = [d]) ∧ l = (segments d l).flatMap (d :: ·) ++ tail := by
  obtain ⟨r, rfl⟩ := List.head?_eq_some_iff.mp h.rooted
  have hinner := h.inner_ne
  rw [splitAt_cons_self, List.tail_cons] at hinner
  -- only the last piece may be empty
  have hpieces := List.dropLast_concat_getLast (splitAt_ne_nil d r)
  generalize (splitAt d r).dropLast = inner at hinner hpieces
  generalize (splitAt d r).getLast _ = last at hpieces
  have hinner' : inner.filter (!·.isEmpty) = inner :=
    List.filter_eq_self.mpr fun s hs => by simpa using hinner s hs
  have hr : d :: r = inner.flatMap (d :: ·) ++ d :: last := by
    rw [← joinWith_splitAt d r, ← hpieces, cons_joinWith (by simp), List.flatMap_append,
      List.flatMap_singleton]
  rw [segments_cons_self, segments, ← hpieces, List.filter_append, hinner']
  cases last with
  | nil => exact ⟨[d], .inr rfl, by simpa using hr⟩
  | cons c last => exact ⟨[], .inl rfl, by simpa using hr⟩

/-- The last character is of a segment, if there is one. -/
theorem exists_last (hne : names ≠ []) (h : ∀ s ∈ names, IsSegment d s) :
    ∃ front c, c ≠ d ∧ names.flatMap (d :: ·) = front ++ [c] := by
  obtain ⟨names, s, rfl⟩ := (List.eq_nil_or_concat names).resolve_left hne
  obtain ⟨hs, hd⟩ := h s (by simp)
  obtain ⟨s, c, rfl⟩ := (List.eq_nil_or_concat s).resolve_left hs
  exact ⟨names.flatMap (d :: ·) ++ d :: s, c, fun he => hd (by simp [he]), by simp⟩

/-- Nothing is dropped behind a segment. -/
theorem dropTrailing_flatMap (h : ∀ s ∈ names, IsSegment d s) :
    dropTrailing d (names.flatMap (d :: ·)) = names.flatMap (d :: ·) := by
  cases names with
  | nil => rfl
  | cons s names =>
    obtain ⟨front, c, hc, hend⟩ := exists_last (List.cons_ne_nil s names) h
    rw [hend]
    exact dropEndWhile_append_singleton (p := (· == d)) (beq_eq_false_iff_ne.mpr hc) front

theorem IsTidy.dropTrailing_eq (h : IsTidy d l) :
    dropTrailing d l = (segments d l).flatMap (d :: ·) := by
  obtain ⟨tail, htail, hl⟩ := h.exists_end
  have hkeep := dropTrailing_flatMap fun s (hs : s ∈ segments d l) => isSegment_of_mem hs
  rcases htail with rfl | rfl
  · rw [List.append_nil] at hl
    rw [← hkeep, ← hl]
  · calc dropTrailing d l
      _ = dropTrailing d ((segments d l).flatMap (d :: ·) ++ [d]) := congrArg _ hl
      _ = (segments d l).flatMap (d :: ·) := by rw [dropTrailing_append_self, hkeep]

/-! ## Roots -/

theorem dropTrailing_idempotent (d : Char) (l : List Char) :
    dropTrailing d (dropTrailing d l) = dropTrailing d l := by
  rw [dropTrailing, dropTrailing, dropEndWhile, dropEndWhile, List.reverse_reverse,
    List.dropWhile_idempotent]

/-- A path lies within its root if it is the root, or goes on after it with a delimiter. -/
theorem isWithinText_iff (h : path.head? = some d) :
    isWithinText d path root = true ↔
      path = dropTrailing d root ∨ dropTrailing d root ++ [d] <+: path := by
  obtain ⟨rest, rfl⟩ := List.head?_eq_some_iff.mp h
  constructor
  · intro hwithin
    obtain ⟨more, hmore⟩ := prefix_of_isWithinText hwithin
    unfold isWithinText at hwithin
    dsimp only at hwithin
    split at hwithin
    · next hempty =>
      rw [List.isEmpty_iff.mp hempty]
      exact .inr ⟨rest, rfl⟩
    · rw [← hmore] at hwithin ⊢
      cases more with
      | nil => exact .inl (List.append_nil _)
      | cons c more =>
        obtain rfl : c = d := by simpa using hwithin
        exact .inr ⟨more, by simp⟩
  · rintro (heq | hprefix)
    · rw [heq, isWithinText]
      cases hroot : dropTrailing d root with
      | nil => rw [hroot] at heq; cases heq
      | cons c r => simp
    · rw [← isWithinText_congr (dropTrailing_idempotent d root)]
      exact isWithinText_of_prefix hprefix

/-- **To lie within a tidy root is to begin with its segments.** -/
theorem isWithinText_iff_segments (hpath : IsTidy d path) (hroot : IsTidy d root) :
    isWithinText d path root = true ↔ segments d root <+: segments d path := by
  rw [isWithinText_iff hpath.rooted]
  constructor
  · rintro (h | ⟨rest, h⟩)
    · have hsame : segments d path = segments d root := by rw [h, segments_dropTrailing]
      exact hsame ▸ List.prefix_rfl
    · rw [← h, List.append_assoc, List.singleton_append, segments_append, segments_dropTrailing]
      exact List.prefix_append _ _
  · rintro ⟨more, hmore⟩
    obtain ⟨tail, htail, hl⟩ := hpath.exists_end
    rw [← hmore, List.flatMap_append, List.append_assoc, ← hroot.dropTrailing_eq] at hl
    -- whatever comes after the root begins with the delimiter
    cases more with
    | cons s more => exact .inr ⟨s ++ (more.flatMap (d :: ·) ++ tail), by rw [hl]; simp⟩
    | nil =>
      rcases htail with rfl | rfl
      · exact .inl (by simpa using hl)
      · exact .inr ⟨[], by rw [hl]; simp⟩

end Path

end RemoteSearch

import RemoteSearch.Unix.Awk

/-!
# Patterns between slashes

The program that tests the last name of a path holds the pattern as a literal between two slashes.
The writer of the literal and its reader both go through the text in the same steps: a backslash
with the character that it covers, or one character that no backslash covers.

* `Steps`: every text falls into such steps, and at most one backslash is left over at its end.
* `IsEscaped`: no slash is a step of its own. That is what `escapeSlashes` brings about
  (`isEscaped_escapeSlashes`), and what it leaves as it is (`escapeSlashes_of_isEscaped`).
* `pattern_is_one_literal`: the literal ends at its last slash exactly if no backslash is left over.
-/

namespace RemoteSearch.Unix.Awk

variable {c : Char} {l r rest : List Char}

/-! ## Steps through a text -/

/-- The steps in which a text is gone through. -/
inductive Steps : List Char → Prop where
  | nil : Steps []
  /-- The backslash that is left over. -/
  | last : Steps ['\\']
  | pair (c : Char) {r : List Char} (h : Steps r) : Steps ('\\' :: c :: r)
  | plain {c : Char} {r : List Char} (hc : c ≠ '\\') (h : Steps r) : Steps (c :: r)

/-- **Every text falls into steps.** -/
theorem steps : ∀ l : List Char, Steps l
  | [] => .nil
  | [c] => by
    by_cases hc : c = '\\'
    · subst hc
      exact .last
    · exact .plain hc .nil
  | c :: d :: r => by
    by_cases hc : c = '\\'
    · subst hc
      exact .pair d (steps r)
    · exact .plain hc (steps (d :: r))

/-- No backslash is left over when each is paired with the character after it. -/
inductive IsPaired : List Char → Prop where
  | nil : IsPaired []
  | pair (c : Char) {r : List Char} (h : IsPaired r) : IsPaired ('\\' :: c :: r)
  | plain {c : Char} {r : List Char} (hc : c ≠ '\\') (h : IsPaired r) : IsPaired (c :: r)

theorem not_isPaired_last : ¬IsPaired ['\\'] := by
  intro h
  cases h with
  | plain hc _ => exact hc rfl

theorem isPaired_pair_iff : IsPaired ('\\' :: c :: r) ↔ IsPaired r := by
  constructor
  · intro h
    cases h with
    | pair _ h => exact h
    | plain hc _ => exact absurd rfl hc
  · exact .pair c

theorem isPaired_plain_iff (hc : c ≠ '\\') : IsPaired (c :: r) ↔ IsPaired r := by
  constructor
  · intro h
    cases h with
    | pair _ _ => exact absurd rfl hc
    | plain _ h => exact h
  · exact .plain hc

/-! ## What the functions do in a step -/

theorem escapeSlashes_pair : escapeSlashes ('\\' :: c :: r) = '\\' :: c :: escapeSlashes r := rfl

theorem escapeSlashes_slash : escapeSlashes ('/' :: r) = '\\' :: '/' :: escapeSlashes r := rfl

theorem escapeSlashes_plain (hc : c ≠ '\\') (hs : c ≠ '/') :
    escapeSlashes (c :: r) = c :: escapeSlashes r := by
  rw [escapeSlashes, if_neg hs]
  · rintro rfl
    exact absurd rfl hc
  · rintro d s rfl
    exact absurd rfl hc

theorem readLiteral_pair : readLiteral ('\\' :: c :: r) =
    (readLiteral r).map fun p => ('\\' :: c :: p.1, p.2) := rfl

theorem readLiteral_slash : readLiteral ('/' :: r) = some ([], r) := rfl

theorem readLiteral_plain (hc : c ≠ '\\') (hs : c ≠ '/') : readLiteral (c :: r) =
    (readLiteral r).map fun p => (c :: p.1, p.2) := by
  rw [readLiteral]
  · rintro rfl
    exact absurd rfl hs
  · rintro d s rfl
    exact absurd rfl hc

theorem plainSlashes_slash : plainSlashes ('\\' :: '/' :: r) = '/' :: plainSlashes r := rfl

theorem plainSlashes_pair (hs : c ≠ '/') :
    plainSlashes ('\\' :: c :: r) = '\\' :: c :: plainSlashes r := by
  rw [plainSlashes, if_neg hs]

theorem plainSlashes_plain (hc : c ≠ '\\') : plainSlashes (c :: r) = c :: plainSlashes r := by
  rw [plainSlashes]
  rintro d s rfl
  exact absurd rfl hc

/-! ## Escaped texts -/

/-- No slash is a step of its own. -/
inductive IsEscaped : List Char → Prop where
  | nil : IsEscaped []
  | last : IsEscaped ['\\']
  | pair (c : Char) {r : List Char} (h : IsEscaped r) : IsEscaped ('\\' :: c :: r)
  | plain {c : Char} {r : List Char} (hc : c ≠ '\\') (hs : c ≠ '/') (h : IsEscaped r) :
      IsEscaped (c :: r)

theorem isEscaped_escapeSlashes (l : List Char) : IsEscaped (escapeSlashes l) := by
  induction steps l with
  | nil => exact .nil
  | last => exact .last
  | pair c _ ih =>
    rw [escapeSlashes_pair]
    exact .pair c ih
  | @plain c r hc _ ih =>
    by_cases hs : c = '/'
    · subst hs
      rw [escapeSlashes_slash]
      exact .pair '/' ih
    · rw [escapeSlashes_plain hc hs]
      exact .plain hc hs ih

/-- **What is escaped already stays as it is.** -/
theorem escapeSlashes_of_isEscaped (h : IsEscaped l) : escapeSlashes l = l := by
  induction h with
  | nil => rfl
  | last => rfl
  | pair c _ ih => rw [escapeSlashes_pair, ih]
  | plain hc hs _ ih => rw [escapeSlashes_plain hc hs, ih]

/-- Escaping does not change which backslashes are covered. -/
theorem isPaired_escapeSlashes_iff (l : List Char) : IsPaired (escapeSlashes l) ↔ IsPaired l := by
  induction steps l with
  | nil => rfl
  | last => rfl
  | pair c _ ih => rw [escapeSlashes_pair, isPaired_pair_iff, isPaired_pair_iff, ih]
  | @plain c r hc _ ih =>
    by_cases hs : c = '/'
    · subst hs
      rw [escapeSlashes_slash, isPaired_pair_iff, isPaired_plain_iff hc, ih]
    · rw [escapeSlashes_plain hc hs, isPaired_plain_iff hc, isPaired_plain_iff hc, ih]

/-- The pattern that is meant stays the same. -/
theorem plainSlashes_escapeSlashes (l : List Char) :
    plainSlashes (escapeSlashes l) = plainSlashes l := by
  induction steps l with
  | nil => rfl
  | last => rfl
  | @pair c r _ ih =>
    rw [escapeSlashes_pair]
    by_cases hs : c = '/'
    · subst hs
      rw [plainSlashes_slash, plainSlashes_slash, ih]
    · rw [plainSlashes_pair hs, plainSlashes_pair hs, ih]
  | @plain c r hc _ ih =>
    by_cases hs : c = '/'
    · subst hs
      rw [escapeSlashes_slash, plainSlashes_slash, plainSlashes_plain hc, ih]
    · rw [escapeSlashes_plain hc hs, plainSlashes_plain hc, plainSlashes_plain hc, ih]

/-- **An escaped text is read up to the slash behind it**, unless a backslash is left over, which
takes that slash with it. -/
theorem readLiteral_append_iff (h : IsEscaped l) :
    readLiteral (l ++ '/' :: rest) = some (l, rest) ↔ IsPaired l := by
  induction h with
  | nil => exact ⟨fun _ => .nil, fun _ => readLiteral_slash⟩
  | last =>
    refine ⟨fun hr => ?_, fun hp => absurd hp not_isPaired_last⟩
    rw [List.cons_append, List.nil_append, readLiteral_pair] at hr
    obtain ⟨p, -, hp⟩ := Option.map_eq_some_iff.mp hr
    simp at hp
  | pair c _ ih =>
    rw [List.cons_append, List.cons_append, readLiteral_pair, isPaired_pair_iff, ← ih]
    simp [Option.map_eq_some_iff, Prod.ext_iff]
  | plain hc hs _ ih =>
    rw [List.cons_append, readLiteral_plain hc hs, isPaired_plain_iff hc, ← ih]
    simp [Option.map_eq_some_iff, Prod.ext_iff]

/--
**A pattern is one literal of its program.** The program for the last names holds an escaped pattern
between two slashes. Read from after the first slash, the literal ends at the last one and nothing
follows, exactly if no backslash of the pattern is left over when each is paired with the character
after it. For every pattern, the literal means the pattern with its own escaped slashes made plain,
and escaping it once more changes nothing.
-/
theorem pattern_is_one_literal (source : String) :
    ∃ body, (lastNameProgram source).toList = "$NF ~ ".toList ++ '/' :: (body ++ ['/']) ∧
      body = escapeSlashes source.toList ∧
      (readLiteral (body ++ ['/']) = some (body, []) ↔ IsPaired source.toList) ∧
      plainSlashes body = plainSlashes source.toList ∧ escapeSlashes body = body := by
  have hescaped := isEscaped_escapeSlashes source.toList
  refine ⟨_, toList_lastNameProgram source, rfl, ?_, plainSlashes_escapeSlashes _,
    escapeSlashes_of_isEscaped hescaped⟩
  rw [readLiteral_append_iff hescaped, isPaired_escapeSlashes_iff]

example : escapeSlashes "a/b\\/c\\\\/".toList = "a\\/b\\/c\\\\\\/".toList := by decide

end RemoteSearch.Unix.Awk

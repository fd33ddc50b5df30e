import Mathlib.Data.List.Forall2
import RemoteSearch.Text.Case.Upper

/-!
# Texts with one upper case

Two texts can have the same upper case without being equal. Where every character has one character
as its upper case they differ in the case of single letters only, so that they are `CaseVariant`s of
each other. Characters whose upper case is several characters are wide, and the sharp s is one: its
upper case is also that of two letters. `caseVariant_iff` says that nothing else goes wrong.

Texts that differ in the case of ASCII letters only have the same letters, and so one upper case
(`SameLetters.upperText_eq`).
-/

namespace RemoteSearch.Text.Case

/-- The upper case of a character is not a single one. -/
def IsWide (c : Char) : Prop := (upperOf c).length ≠ 1

instance (c : Char) : Decidable (IsWide c) := inferInstanceAs (Decidable (_ ≠ _))

/-- Two characters are the same, or have the same single one as their upper case. -/
def IsVariant (c d : Char) : Prop := c = d ∨ ∃ u, upperOf c = [u] ∧ upperOf d = [u]

/-- Two texts have the same length, and differ in case only, one character at a time. -/
def CaseVariant (a b : List Char) : Prop := List.Forall₂ IsVariant a b

/-- Two texts have the same wide characters in the same places. -/
def SameWide (a b : List Char) : Prop :=
  ∀ (i : Nat) (c : Char), IsWide c → (a[i]? = some c ↔ b[i]? = some c)

/-! ## Upper cases of characters -/

theorem upperExpansions_ne_nil : ∀ p ∈ upperExpansions, p.2 ≠ [] := by decide

theorem lt_of_mem_upperExpansions : ∀ p ∈ upperExpansions, ∀ n ∈ p.2, 0x27 < n := by
  decide +kernel

theorem lt_of_mem_upperShifts : ∀ s ∈ upperShifts, 0x27 < (s.first : Int) + s.delta := by
  decide +kernel

theorem upperOf_ne_nil (c : Char) : upperOf c ≠ [] := by
  simp only [upperOf]
  split
  · simp
  · split
    · rename_i ns h
      obtain ⟨l, r, he, -⟩ := List.lookup_eq_some_iff.mp h
      have hm : (c.toNat, ns) ∈ upperExpansions := by rw [he]; simp
      simpa using upperExpansions_ne_nil _ hm
    · simp

/-- A row of a table moves no character down to the quote or below. -/
theorem lt_shifted {n : Nat} (hn : 0x27 < n) : 0x27 < shifted upperShifts n := by
  unfold shifted
  split
  · rename_i s h
    have hs := lt_of_mem_upperShifts s (List.mem_of_find?_eq_some h)
    have hc : s.covers n = true := by simpa using List.find?_some h
    simp only [Shift.covers, Bool.and_eq_true, decide_eq_true_eq] at hc
    omega
  · exact hn

theorem ofNat_ne_quote {n : Nat} (hn : 0x27 < n) : Char.ofNat n ≠ '\'' := by
  intro h
  have h1 : (Char.ofNat n).toNat = 0x27 := by
    rw [h]
    rfl
  by_cases hv : n.isValidChar
  · have h2 : Char.ofNat n = Char.ofNatAux n hv := dif_pos hv
    have h3 : n = 0x27 := by
      rw [h2] at h1
      exact h1
    omega
  · have h2 : Char.ofNat n = Char.ofNatAux 0 (by decide) := dif_neg hv
    rw [h2] at h1
    cases h1

theorem asciiUpper_eq_quote_iff {c : Char} : asciiUpper c = '\'' ↔ c = '\'' := by
  unfold asciiUpper
  split
  · rename_i h
    have h1 : 'a'.toNat ≤ c.toNat := h.1
    have h2 : c.toNat ≤ 'z'.toNat := h.2
    have h3 : 'a'.toNat = 97 := rfl
    constructor
    · intro he
      exact absurd he (ofNat_ne_quote (by omega))
    · rintro rfl
      exact absurd h1 (by decide)
  · rfl

/-- **Only the quote has a quote in its upper case**, and it stays as it is. -/
theorem quote_mem_upperOf {c : Char} : '\'' ∈ upperOf c ↔ c = '\'' := by
  simp only [upperOf]
  split
  · rw [List.mem_singleton, eq_comm, asciiUpper_eq_quote_iff]
  · rename_i hn
    have hc : c ≠ '\'' := by
      rintro rfl
      exact hn (by decide)
    simp only [hc, iff_false]
    split
    · rename_i ns h
      obtain ⟨l, r, he, -⟩ := List.lookup_eq_some_iff.mp h
      have hm : (c.toNat, ns) ∈ upperExpansions := by rw [he]; simp
      intro hq
      obtain ⟨n, hn, hne⟩ := List.mem_map.mp hq
      exact ofNat_ne_quote (lt_of_mem_upperExpansions _ hm n hn) hne
    · rw [List.mem_singleton, eq_comm]
      exact ofNat_ne_quote (lt_shifted (by omega))

@[simp] theorem upperOf_quote : upperOf '\'' = ['\''] := by decide

theorem quote_mem_upperText {l : List Char} : '\'' ∈ upperText l ↔ '\'' ∈ l := by
  simp [upperText, quote_mem_upperOf]

theorem upperText_cons (c : Char) (l : List Char) :
    upperText (c :: l) = upperOf c ++ upperText l := rfl

theorem upperText_eq_nil_iff {l : List Char} : upperText l = [] ↔ l = [] := by
  cases l with
  | nil => simp [upperText]
  | cons c l => simp [upperText_cons, upperOf_ne_nil]

/-! ## Case variants -/

/-- A variant of a quote is a quote. -/
theorem IsVariant.quote_iff {c d : Char} (h : IsVariant c d) : c = '\'' ↔ d = '\'' := by
  rcases h with rfl | ⟨u, hc, hd⟩
  · rfl
  · rw [← quote_mem_upperOf, hc, ← hd, quote_mem_upperOf]

theorem IsVariant.upperOf_eq {c d : Char} (h : IsVariant c d) : upperOf c = upperOf d := by
  rcases h with rfl | ⟨u, hc, hd⟩
  · rfl
  · rw [hc, hd]

theorem IsVariant.eq_of_isWide {c d : Char} (h : IsVariant c d) (hw : IsWide c ∨ IsWide d) :
    c = d := by
  rcases h with rfl | ⟨u, hc, hd⟩
  · rfl
  · simp [IsWide, hc, hd] at hw

theorem CaseVariant.upperText_eq {a b : List Char} (h : CaseVariant a b) :
    upperText a = upperText b := by
  induction h with
  | nil => rfl
  | cons hc _ ih => rw [upperText_cons, upperText_cons, hc.upperOf_eq, ih]

theorem CaseVariant.sameWide {a b : List Char} (h : CaseVariant a b) : SameWide a b := by
  intro i c hw
  induction h generalizing i with
  | nil => rfl
  | @cons x y a b hxy _ ih =>
    cases i with
    | zero =>
      simp only [List.getElem?_cons_zero, Option.some.injEq]
      constructor
      · rintro rfl
        exact (hxy.eq_of_isWide (Or.inl hw)).symm
      · rintro rfl
        exact hxy.eq_of_isWide (Or.inr hw)
    | succ i => simpa using ih i

/-- Same wide characters after the first ones. -/
theorem SameWide.tail {c d : Char} {a b : List Char} (h : SameWide (c :: a) (d :: b)) :
    SameWide a b := fun i e he => by simpa using h (i + 1) e he

/--
**Texts with one upper case are case variants of each other exactly if wide characters stand in the
same places of both.**
-/
theorem caseVariant_iff {a b : List Char} :
    CaseVariant a b ↔ upperText a = upperText b ∧ SameWide a b := by
  constructor
  · intro h
    exact ⟨h.upperText_eq, h.sameWide⟩
  · rintro ⟨hu, hw⟩
    induction a generalizing b with
    | nil =>
      have hb : b = [] := upperText_eq_nil_iff.mp hu.symm
      subst hb
      exact .nil
    | cons c a ih =>
      cases b with
      | nil => exact absurd (upperText_eq_nil_iff.mp hu) (by simp)
      | cons d b =>
        rw [upperText_cons, upperText_cons] at hu
        by_cases hcd : c = d
        · subst hcd
          exact .cons (Or.inl rfl) (ih (List.append_cancel_left hu) hw.tail)
        · -- neither of two different first characters is wide, so both upper cases are single
          have hc : (upperOf c).length = 1 := by
            by_contra hn
            have h := (hw 0 c hn).mp rfl
            simp only [List.getElem?_cons_zero, Option.some.injEq] at h
            exact hcd h.symm
          have hd : (upperOf d).length = 1 := by
            by_contra hn
            have h := (hw 0 d hn).mpr rfl
            simp only [List.getElem?_cons_zero, Option.some.injEq] at h
            exact hcd h
          obtain ⟨u, hu'⟩ := List.length_eq_one_iff.mp hc
          obtain ⟨v, hv⟩ := List.length_eq_one_iff.mp hd
          rw [hu', hv] at hu
          obtain ⟨rfl, ht⟩ := List.cons.inj hu
          exact .cons (Or.inr ⟨u, hu', hv⟩) (ih ht hw.tail)

/-! ## ASCII letters -/

/-- Two characters are the same, or the two cases of one ASCII letter. -/
def SameLetter (c d : Char) : Prop := asciiUpper c = asciiUpper d

instance (c d : Char) : Decidable (SameLetter c d) := inferInstanceAs (Decidable (_ = _))

/-- Two texts differ in the case of ASCII letters only. -/
def SameLetters (a b : List Char) : Prop := List.Forall₂ SameLetter a b

instance (a b : List Char) : Decidable (SameLetters a b) :=
  inferInstanceAs (Decidable (List.Forall₂ _ a b))

/-- Upper case takes ASCII letters to ASCII letters, and leaves all else alone. -/
theorem asciiUpper_cases (c : Char) :
    asciiUpper c = c ∨ (c.toNat < 0x80 ∧ c.isAlpha = true) ∧
      (asciiUpper c).toNat < 0x80 ∧ (asciiUpper c).isAlpha = true := by
  have hascii : ∀ n < 0x80, asciiUpper (Char.ofNat n) = Char.ofNat n ∨
      (Char.ofNat n).isAlpha = true ∧ (asciiUpper (Char.ofNat n)).toNat < 0x80 ∧
        (asciiUpper (Char.ofNat n)).isAlpha = true := by
    decide +kernel
  by_cases hc : c.toNat < 0x80
  · have h := hascii c.toNat hc
    rw [Char.ofNat_toNat] at h
    exact h.imp id fun ⟨ha, hu⟩ => ⟨⟨hc, ha⟩, hu⟩
  · refine Or.inl (if_neg fun h => hc ?_)
    have hz : c.toNat ≤ 'z'.toNat := h.2
    exact Nat.lt_of_le_of_lt hz (by decide)

theorem asciiUpper_eq_iff {c x : Char} (hx : x.isAlpha = false) : asciiUpper c = x ↔ c = x := by
  have hno : x.isAlpha ≠ true := Bool.eq_false_iff.mp hx
  constructor
  · rintro rfl
    exact ((asciiUpper_cases c).resolve_right fun h => hno h.2.2).symm
  · rintro rfl
    exact (asciiUpper_cases c).resolve_right fun h => hno h.1.2

namespace SameLetter

variable {c d x : Char}

/-- A character that is no letter stands in both of two spellings or in neither. -/
theorem eq_iff (hx : x.isAlpha = false) (h : SameLetter c d) : c = x ↔ d = x := by
  rw [← asciiUpper_eq_iff (c := c) hx, h, asciiUpper_eq_iff hx]

/-- Both have a property that no letter has, or neither has it. -/
theorem congr {p : Char → Bool} (hp : ∀ x, p x = true → x.isAlpha = false) (h : SameLetter c d) :
    p c = p d := by
  rw [Bool.eq_iff_iff]
  constructor
  · intro hc
    rwa [(h.eq_iff (hp c hc)).mp rfl]
  · intro hd
    rwa [(h.eq_iff (hp d hd)).mpr rfl]

theorem upperOf_eq (h : SameLetter c d) : upperOf c = upperOf d := by
  have hlt : ∀ e, (asciiUpper e).toNat < 0x80 ↔ e.toNat < 0x80 := by
    intro e
    rcases asciiUpper_cases e with he | ⟨he, he'⟩
    · rw [he]
    · exact iff_of_true he'.1 he.1
  have hupper : asciiUpper c = asciiUpper d := h
  by_cases hc : c.toNat < 0x80
  · have hd : d.toNat < 0x80 := by rwa [← hlt, ← hupper, hlt]
    simp only [upperOf, hc, hd, if_true, hupper]
  · -- beyond ASCII the two are one character
    have hself : ∀ e, ¬e.toNat < 0x80 → asciiUpper e = e := fun e he =>
      (asciiUpper_cases e).resolve_right fun hl => he hl.1.1
    have hd : ¬d.toNat < 0x80 := by rwa [← hlt, ← hupper, hlt]
    rw [hself c hc, hself d hd] at hupper
    rw [hupper]

end SameLetter

namespace SameLetters

variable {a b a' b' : List Char}

theorem refl (a : List Char) : SameLetters a a := List.forall₂_same.mpr fun _ _ => rfl

theorem append (h : SameLetters a b) (h' : SameLetters a' b') :
    SameLetters (a ++ a') (b ++ b') := List.rel_append h h'

/-- **Texts with the same letters have one upper case.** -/
theorem upperText_eq (h : SameLetters a b) : upperText a = upperText b := by
  induction h with
  | nil => rfl
  | cons hc _ ih => rw [upperText_cons, upperText_cons, hc.upperOf_eq, ih]

/-- What is written for each character keeps the letters if it keeps those of the character. -/
theorem flatMap {f : Char → List Char} (hf : ∀ c d, SameLetter c d → SameLetters (f c) (f d))
    (h : SameLetters a b) : SameLetters (a.flatMap f) (b.flatMap f) := by
  induction h with
  | nil => exact .nil
  | cons hc _ ih => exact (hf _ _ hc).append ih

theorem dropWhile {p : Char → Bool} (hp : ∀ c d, SameLetter c d → p c = p d)
    (h : SameLetters a b) : SameLetters (a.dropWhile p) (b.dropWhile p) := by
  induction h with
  | nil => exact .nil
  | @cons c d a b hc h ih =>
    rw [List.dropWhile_cons, List.dropWhile_cons, hp c d hc]
    split
    · exact ih
    · exact .cons hc h

theorem head?_eq_iff {x : Char} (hx : x.isAlpha = false) (h : SameLetters a b) :
    a.head? = some x ↔ b.head? = some x := by
  cases h with
  | nil => rfl
  | cons hc _ => simp only [List.head?_cons, Option.some.injEq, hc.eq_iff hx]

theorem reverse (h : SameLetters a b) : SameLetters a.reverse b.reverse := List.rel_reverse h

end SameLetters

end RemoteSearch.Text.Case

import RemoteSearch.Proofs.Text.Digits
import RemoteSearch.Text.Blank
import RemoteSearch.Text.Numeral

/-!
# Blanks around texts

What trimming leaves of a text with blanks around it, which word comes first in a text, and that
numbers are read as they are written.

* `trim_blanks`: blanks around a text make no difference to what is trimmed.
* `nextWord_append`: a text that begins with a word, after any blanks, has it as its first word.
* `readNat_digitsOf`: a number reads back from its digits.
-/

namespace RemoteSearch.Text

variable {l w a b r : List Char} {c : Char}

/-! ## Trimming -/

/-- Whether a text has no blank in it. -/
def IsSolid (l : List Char) : Prop := ∀ c ∈ l, isBlank c = false

/-- Whether a text has nothing but blanks in it. -/
def IsEmptySpace (l : List Char) : Prop := ∀ c ∈ l, isBlank c = true

instance (l : List Char) : Decidable (IsSolid l) := List.decidableBAll (isBlank · = false) l

instance (l : List Char) : Decidable (IsEmptySpace l) := List.decidableBAll (isBlank · = true) l

theorem trimStart_blanks (ha : IsEmptySpace a) : trimStart (a ++ l) = trimStart l :=
  List.dropWhile_append_of_pos ha

theorem trimStart_cons (hc : isBlank c = false) : trimStart (c :: l) = c :: l := by
  simp [trimStart, hc]

theorem trimEnd_blanks (hb : IsEmptySpace b) : trimEnd (l ++ b) = trimEnd l := by
  have hr : ∀ c ∈ b.reverse, isBlank c = true := fun c hc => hb c (List.mem_reverse.mp hc)
  rw [trimEnd, trimEnd, dropEndWhile, dropEndWhile, List.reverse_append,
    List.dropWhile_append_of_pos hr]

/-- What is dropped at the end stands behind every character that is kept. -/
theorem dropEndWhile_append_cons {p : Char → Bool} (hc : p c = false) :
    dropEndWhile p (l ++ c :: r) = l ++ c :: dropEndWhile p r := by
  unfold dropEndWhile
  rw [List.reverse_append, List.reverse_cons, List.dropWhile_append, List.dropWhile_append]
  by_cases h : (List.dropWhile p r.reverse).isEmpty = true
  · rw [List.isEmpty_iff] at h
    simp [h, hc]
  · simp [h]

/-- Trimming at the end stops at anything that is no blank. -/
theorem trimEnd_append_cons (hc : isBlank c = false) :
    trimEnd (l ++ c :: r) = l ++ c :: trimEnd r :=
  dropEndWhile_append_cons hc

theorem trimEnd_of_isSolid (h : IsSolid l) : trimEnd l = l := by
  rcases List.eq_nil_or_concat l with rfl | ⟨l, c, rfl⟩
  · rfl
  · rw [List.concat_eq_append] at h ⊢
    exact trimEnd_append_cons (h c (by simp))

theorem trim_of_isSolid (h : IsSolid l) : trim l = l := by
  cases l with
  | nil => rfl
  | cons c r => rw [trim, trimStart_cons (h c (by simp)), trimEnd_of_isSolid h]

theorem trim_of_isEmptySpace (h : IsEmptySpace l) : trim l = [] := by
  rw [trim, ← List.append_nil l, trimStart_blanks h]
  rfl

/-- **Blanks around a text make no difference to what is trimmed.** -/
theorem trim_blanks (ha : IsEmptySpace a) (hb : IsEmptySpace b) :
    trim (a ++ l ++ b) = trim l := by
  rw [List.append_assoc, trim, trimStart_blanks ha, trim, trimStart, List.dropWhile_append]
  by_cases h : (l.dropWhile isBlank).isEmpty = true
  · have hl : trimStart l = [] := List.isEmpty_iff.mp h
    have hd : (b ++ []).dropWhile isBlank = [] := List.dropWhile_append_of_pos hb
    rw [List.append_nil] at hd
    rw [if_pos h, hl, hd]
  · rw [if_neg h, trimEnd_blanks hb, trimStart]

theorem trim_blank_cons (hc : isBlank c = true) : trim (c :: l) = trim l := by
  rw [trim, trimStart, List.dropWhile_cons_of_pos hc, ← trimStart, trim]

/-! ## Words -/

/-- Whether a text ends or goes on with a blank. -/
def IsBreak (l : List Char) : Prop := ∀ c ∈ l.head?, isBlank c = true

/-- **The first word of a text that begins with it**, after any blanks. -/
theorem nextWord_append (ha : IsEmptySpace a) (hw : IsSolid w) (hne : w ≠ []) (hr : IsBreak r) :
    nextWord (a ++ (w ++ r)) = some (w, r) := by
  have hrest : (r.takeWhile (!isBlank ·), r.dropWhile (!isBlank ·)) = ([], r) := by
    cases r with
    | nil => rfl
    | cons c r => simp [hr c (by simp)]
  obtain ⟨hr₁, hr₂⟩ := Prod.mk.inj hrest
  have hsolid : ∀ c ∈ w, (!isBlank c) = true := fun c hc => by simp [hw c hc]
  obtain ⟨c, t, rfl⟩ := List.exists_cons_of_ne_nil hne
  have htrim : trimStart (a ++ (c :: t ++ r)) = c :: t ++ r := by
    rw [trimStart_blanks ha, List.cons_append, trimStart_cons (hw c (by simp))]
  have hdrop : (c :: t ++ r).dropWhile (!isBlank ·) = r := by
    rw [List.dropWhile_append_of_pos hsolid, hr₂]
  have htake : (c :: t ++ r).takeWhile (!isBlank ·) = c :: t := by
    rw [List.takeWhile_append_of_pos hsolid, hr₁, List.append_nil]
  rw [nextWord, htrim, List.cons_append]
  simp only
  rw [← List.cons_append, htake, hdrop]

/-! ## Numbers -/

theorem isSolid_digit (h : c.isDigit = true) : isBlank c = false := by
  have hc := Char.isDigit_iff_toNat.mp h
  simp only [Char.reduceToNat] at hc
  simp only [isBlank]
  simp
  omega

theorem digitValue_of_isDigit (h : c.isDigit = true) :
    digitValue c = some (c.toNat - '0'.toNat) := by
  have hc := Char.isDigit_iff_toNat.mp h
  have hrange : '0' ≤ c ∧ c ≤ '9' := ⟨hc.1, hc.2⟩
  rw [digitValue, if_pos hrange]

/-- Digits are read as the number that they stand for. -/
theorem readDigits_of_isDigit (h : ∀ c ∈ l, c.isDigit = true) (acc : Nat) :
    readDigits acc l = some (Nat.ofDigitChars 10 l acc) := by
  induction l generalizing acc with
  | nil => rfl
  | cons c r ih =>
    rw [readDigits, digitValue_of_isDigit (h c (by simp)), Nat.ofDigitChars_cons]
    exact ih (fun d hd => h d (by simp [hd])) _

theorem isDigit_of_mem_digitsOf {n : Nat} (h : c ∈ digitsOf n) : c.isDigit = true :=
  Nat.isDigit_of_mem_toDigits (by decide) (by decide) h

theorem isSolid_digitsOf (n : Nat) : IsSolid (digitsOf n) :=
  fun _ hc => isSolid_digit (isDigit_of_mem_digitsOf hc)

theorem natOfDigits_digitsOf (n : Nat) : natOfDigits (digitsOf n) = some n := by
  have hne : (digitsOf n).isEmpty = false := by
    rw [List.isEmpty_eq_false_iff]
    exact Nat.toDigits_ne_nil
  rw [natOfDigits, hne, readDigits_of_isDigit fun c hc => isDigit_of_mem_digitsOf hc]
  simp [digitsOf, Nat.ofDigitChars_ten_toDigits]

/-- The first of a number's characters is neither of the signs. -/
theorem digitsOf_ne_sign {n : Nat} {s : Char} (hs : s.isDigit = false) (r : List Char) :
    digitsOf n ≠ s :: r := by
  intro h
  have := isDigit_of_mem_digitsOf (n := n) (c := s) (by simp [h])
  rw [hs] at this
  cases this

/-- **A number reads back from its digits.** -/
theorem readNat_digitsOf {n bound : Nat} (h : n < bound) : readNat bound (digitsOf n) = some n := by
  unfold readNat
  split
  · next r hr => exact absurd hr (digitsOf_ne_sign (by decide) r)
  · simp [natOfDigits_digitsOf, h]

theorem readInt_digitsOf {n bound : Nat} (h : n < bound) :
    readInt bound (digitsOf n) = some (n : Int) := by
  unfold readInt
  split
  · next r hr => exact absurd hr (digitsOf_ne_sign (by decide) r)
  · simp [readNat_digitsOf h]

end RemoteSearch.Text

import RemoteSearch.Proofs.Text.Blank
import RemoteSearch.Text.Base64
import RemoteSearch.Text.Utf8

/-!
# Encoded texts

Texts that are sent as Base64 of their UTF-8 bytes come back as they were: both encodings are
undone by their strict decodings, and what is sent has no blank in it.
-/

namespace RemoteSearch.Text

/-! ## UTF-8 -/

namespace Utf8

/-- The code points of characters: no surrogate, and nothing beyond the last plane. -/
theorem toNat_bounds (c : Char) : c.toNat < 0xD800 ∨ 0xDFFF < c.toNat ∧ c.toNat < 0x110000 :=
  c.valid

theorem toNat_toUInt8 {n : Nat} (h : n < 256) : n.toUInt8.toNat = n := by
  simp [Nat.toUInt8, Nat.mod_eq_of_lt h]

theorem decodeFrom?_cons {s s' : State} {b : UInt8} {cs out : List Char} {r : List UInt8}
    (h : continue? s b.toNat = some (s', cs)) :
    decodeFrom? s out (b :: r) = decodeFrom? s' (cs ++ out) r := by
  simp [decodeFrom?, h]

/-- A byte within the bounds of the last place of a character completes it. -/
theorem continue?_last {bits low high b : Nat} (h : low ≤ b ∧ b ≤ high) :
    continue? (.inside bits 1 low high) b =
      some (.start, [Char.ofNat (bits * 64 + (b - 0x80))]) := by
  simp [continue?, h]

/-- A byte within the bounds of an earlier place goes on with the character. -/
theorem continue?_more {bits needed low high b : Nat} (h : low ≤ b ∧ b ≤ high) :
    continue? (.inside bits (needed + 2) low high) b =
      some (.inside (bits * 64 + (b - 0x80)) (needed + 1) 0x80 0xBF, []) := by
  simp [continue?, h]

/-- The first of two bytes. -/
theorem begin?_two {n : Nat} (h₁ : 0x80 ≤ n) (h₂ : n < 0x800) :
    begin? (0xC0 + n / 64) = some (.inside (n / 64) 1 0x80 0xBF, []) := by
  unfold begin?
  rw [if_neg (by omega), if_pos (by omega), Nat.add_sub_cancel_left]

/-- The first of three bytes; the bounds of the second let it pass. -/
theorem begin?_three {n : Nat} (h₁ : 0x800 ≤ n) (h₂ : n < 0xD800 ∨ 0xDFFF < n) (h₃ : n < 0x10000) :
    ∃ low high, begin? (0xE0 + n / 4096) = some (.inside (n / 4096) 2 low high, []) ∧
      low ≤ 0x80 + n / 64 % 64 ∧ 0x80 + n / 64 % 64 ≤ high := by
  unfold begin?
  rw [if_neg (by omega), if_neg (by omega)]
  -- the second byte is bounded more tightly after the bytes that begin overlong forms or surrogates
  by_cases h0 : n / 4096 = 0
  · refine ⟨0xA0, 0xBF, ?_, by omega, by omega⟩
    rw [if_pos (by omega), h0]
  · rw [if_neg (by omega)]
    by_cases hd : n / 4096 = 13
    · refine ⟨0x80, 0x9F, ?_, by omega, by omega⟩
      rw [if_pos (by omega), hd]
    · refine ⟨0x80, 0xBF, ?_, by omega, by omega⟩
      rw [if_neg (by omega), if_pos (by omega), Nat.add_sub_cancel_left]

/-- The first of four bytes; the bounds of the second let it pass. -/
theorem begin?_four {n : Nat} (h₁ : 0x10000 ≤ n) (h₂ : n < 0x110000) :
    ∃ low high, begin? (0xF0 + n / 262144) = some (.inside (n / 262144) 3 low high, []) ∧
      low ≤ 0x80 + n / 4096 % 64 ∧ 0x80 + n / 4096 % 64 ≤ high := by
  unfold begin?
  rw [if_neg (by omega), if_neg (by omega), if_neg (by omega), if_neg (by omega),
    if_neg (by omega)]
  -- here the tighter bounds keep out overlong forms and what lies beyond the last plane
  by_cases h0 : n / 262144 = 0
  · refine ⟨0x90, 0xBF, ?_, by omega, by omega⟩
    rw [if_pos (by omega), h0]
  · rw [if_neg (by omega)]
    by_cases h4 : n / 262144 = 4
    · refine ⟨0x80, 0x8F, ?_, by omega, by omega⟩
      rw [if_neg (by omega), if_pos (by omega), h4]
    · refine ⟨0x80, 0xBF, ?_, by omega, by omega⟩
      rw [if_pos (by omega), Nat.add_sub_cancel_left]

/-- The bytes of a character are read as that character. -/
theorem decodeFrom?_encodeChar (c : Char) (out : List Char) (r : List UInt8) :
    decodeFrom? .start out (encodeChar c ++ r) = decodeFrom? .start (c :: out) r := by
  have hc := toNat_bounds c
  have hofNat : ∀ n, n = c.toNat → Char.ofNat n = c := by
    rintro n rfl
    exact Char.ofNat_toNat c
  unfold encodeChar
  simp only
  split
  · -- one byte, which is the character itself
    have hstep : continue? .start c.toNat.toUInt8.toNat = some (.start, [c]) := by
      rw [toNat_toUInt8 (by omega), continue?, begin?, if_pos (by omega), hofNat _ rfl]
    rw [List.singleton_append, decodeFrom?_cons hstep, List.singleton_append]
  · split
    · have h1 := begin?_two (n := c.toNat) (by omega) (by omega)
      simp only [List.cons_append, List.nil_append]
      rw [decodeFrom?_cons (by rw [toNat_toUInt8 (by omega)]; exact h1),
        decodeFrom?_cons (by rw [toNat_toUInt8 (by omega)]; exact continue?_last (by omega)),
        hofNat _ (by omega)]
      rfl
    · split
      · obtain ⟨low, high, h1, h2⟩ := begin?_three (n := c.toNat) (by omega) (by omega) (by omega)
        simp only [List.cons_append, List.nil_append]
        rw [decodeFrom?_cons (by rw [toNat_toUInt8 (by omega)]; exact h1),
          decodeFrom?_cons (by rw [toNat_toUInt8 (by omega)]; exact continue?_more h2),
          decodeFrom?_cons (by rw [toNat_toUInt8 (by omega)]; exact continue?_last (by omega)),
          hofNat _ (by omega)]
        rfl
      · obtain ⟨low, high, h1, h2⟩ := begin?_four (n := c.toNat) (by omega) (by omega)
        simp only [List.cons_append, List.nil_append]
        rw [decodeFrom?_cons (by rw [toNat_toUInt8 (by omega)]; exact h1),
          decodeFrom?_cons (by rw [toNat_toUInt8 (by omega)]; exact continue?_more h2),
          decodeFrom?_cons (by rw [toNat_toUInt8 (by omega)]; exact continue?_more (by omega)),
          decodeFrom?_cons (by rw [toNat_toUInt8 (by omega)]; exact continue?_last (by omega)),
          hofNat _ (by omega)]
        rfl

theorem decodeFrom?_encode (l out : List Char) :
    decodeFrom? .start out (encode l) = some (out.reverse ++ l) := by
  induction l generalizing out with
  | nil => simp [encode, decodeFrom?]
  | cons c r ih =>
    rw [encode, List.flatMap_cons, decodeFrom?_encodeChar, ← encode, ih]
    simp

/-- **The bytes of a text are read as that text.** -/
theorem decode?_encode (l : List Char) : decode? (encode l) = some l :=
  decodeFrom?_encode l []

end Utf8

/-! ## Base64 -/

namespace Base64

/-- The characters for six bits are neither padding nor blank. -/
theorem digitChar_ne_pad {n : Nat} (h : n < 64) :
    digitChar n ≠ '=' ∧ isBlank (digitChar n) = false := by
  have hall : ∀ k ∈ List.range 64, digitChar k ≠ '=' ∧ isBlank (digitChar k) = false := by decide
  exact hall n (List.mem_range.mpr h)

theorem toUInt8_eq {n : Nat} {b : UInt8} (h : n = b.toNat) : n.toUInt8 = b := by
  subst h
  exact UInt8.ofNat_toNat

/-- The bytes of an encoding are read back. -/
theorem decode_encode (bytes : List UInt8) : decode (encode bytes) = some bytes := by
  induction bytes using encode.induct with
  | case1 => rfl
  | case2 a =>
    have ha := a.toNat_lt
    rw [encode, decode, digitValue_digitChar (by omega), digitValue_digitChar (by omega)]
    simp only [Option.bind_eq_bind, Option.bind_some]
    rw [if_pos (by omega), toUInt8_eq (b := a) (by omega)]
  | case3 a b =>
    have ha := a.toNat_lt
    have hb := b.toNat_lt
    have hpad := (digitChar_ne_pad (n := b.toNat % 16 * 4) (by omega)).1
    rw [encode, decode, digitValue_digitChar (by omega), digitValue_digitChar (by omega),
      digitValue_digitChar (by omega)]
    · simp only [Option.bind_eq_bind, Option.bind_some]
      rw [if_pos (by omega), toUInt8_eq (b := a) (by omega), toUInt8_eq (b := b) (by omega)]
    · simp [hpad]
  | case4 a b c r ih =>
    have ha := a.toNat_lt
    have hb := b.toNat_lt
    have hc := c.toNat_lt
    have hpad := (digitChar_ne_pad (n := c.toNat % 64) (by omega)).1
    rw [encode, decode, digitValue_digitChar (by omega), digitValue_digitChar (by omega),
      digitValue_digitChar (by omega), digitValue_digitChar (by omega), ih]
    · simp only [Option.bind_eq_bind, Option.bind_some]
      rw [toUInt8_eq (b := a) (by omega), toUInt8_eq (b := b) (by omega),
        toUInt8_eq (b := c) (by omega)]
    · simp [hpad]
    · simp [hpad]

/-- What is sent has no blank in it. -/
theorem isSolid_encode (bytes : List UInt8) : IsSolid (encode bytes) := by
  have hpad : isBlank '=' = false := by decide
  have hdigit : ∀ n, n < 64 → isBlank (digitChar n) = false := fun n h => (digitChar_ne_pad h).2
  induction bytes using encode.induct with
  | case1 => simp [encode, IsSolid]
  | case2 a =>
    have ha := a.toNat_lt
    simp only [encode, IsSolid, List.forall_mem_cons, List.not_mem_nil, false_imp_iff, forall_const,
      and_true]
    exact ⟨hdigit _ (by omega), hdigit _ (by omega), hpad, hpad⟩
  | case3 a b =>
    have ha := a.toNat_lt
    have hb := b.toNat_lt
    simp only [encode, IsSolid, List.forall_mem_cons, List.not_mem_nil, false_imp_iff, forall_const,
      and_true]
    exact ⟨hdigit _ (by omega), hdigit _ (by omega), hdigit _ (by omega), hpad⟩
  | case4 a b c r ih =>
    have ha := a.toNat_lt
    have hb := b.toNat_lt
    have hc := c.toNat_lt
    simp only [encode, IsSolid, List.forall_mem_cons]
    exact ⟨hdigit _ (by omega), hdigit _ (by omega), hdigit _ (by omega), hdigit _ (by omega), ih⟩

end Base64

end RemoteSearch.Text

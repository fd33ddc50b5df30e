import Mathlib.Tactic.SplitIfs
import RemoteSearch.Proofs.Text.Base64
import RemoteSearch.Proofs.Text.Decoding

/-!
# Encoded texts

What is written in an encoding is read in it again, and the first bytes tell which one it is: by a
mark, or by the zeros that stand between the characters of UTF-16 as long as there are only Latin
ones.
-/

namespace RemoteSearch.Text

/-! ## UTF-8 -/

namespace Utf8

variable {s : State} {b : UInt8} {bytes : List UInt8} {cs out l : List Char}

theorem begin?_short {n : Nat} {r : State × List Char} (h : begin? n = some r) :
    r.2.reverse = r.2 := by
  unfold begin? at h
  split_ifs at h <;> cases h <;> rfl

theorem continue?_short {n : Nat} {r : State × List Char} (h : continue? s n = some r) :
    r.2.reverse = r.2 := by
  cases s with
  | start => exact begin?_short h
  | inside bits needed low high =>
    simp only [continue?] at h
    split_ifs at h <;> cases h <;> rfl

/-- Strict decoding that succeeds is decoding. -/
theorem feed_of_decodeFrom? (h : decodeFrom? s out bytes = some l) :
    ∃ text, feed step s bytes = (.start, text) ∧ l = out.reverse ++ text := by
  induction bytes generalizing s out with
  | nil =>
    unfold decodeFrom? at h
    split at h
    · next hs =>
      subst hs
      cases h
      exact ⟨[], rfl, (List.append_nil _).symm⟩
    · cases h
  | cons b bytes ih =>
    cases hc : continue? s b.toNat with
    | none =>
      simp only [decodeFrom?, hc] at h
      cases h
    | some r =>
      rw [decodeFrom?_cons hc] at h
      obtain ⟨text, hfeed, rfl⟩ := ih h
      have hstep : step s b = r := by
        simp only [step, hc]
      refine ⟨r.2 ++ text, ?_, ?_⟩
      · simp only [feed, hstep, hfeed]
      · rw [List.reverse_append, continue?_short hc, List.append_assoc]

theorem run_encode (text : List Char) : run .start (encode text) = (.start, text) := by
  obtain ⟨text', hfeed, he⟩ := feed_of_decodeFrom? (decode?_encode text)
  rw [run_eq_feed, hfeed, he, List.reverse_nil, List.nil_append]

/-- A byte is an ASCII character of its own, or part of a character beyond ASCII. -/
theorem byte_cases {c : Char} (h : b ∈ encodeChar c) :
    (c.toNat < 0x80 ∧ b.toNat = c.toNat) ∨
      (0x80 ≤ c.toNat ∧ 0x80 ≤ b.toNat ∧ b.toNat < 0xFE) := by
  have hc := toNat_bounds c
  have hlate : ∀ n : Nat, 0x80 ≤ n → n < 0xFE → b = n.toUInt8 →
      0x80 ≤ b.toNat ∧ b.toNat < 0xFE := by
    rintro n hle hlt rfl
    rw [toNat_toUInt8 (by omega)]
    exact ⟨hle, hlt⟩
  unfold encodeChar at h
  dsimp only at h
  split_ifs at h with h1 <;> simp only [List.mem_cons, List.not_mem_nil, or_false] at h
  · exact Or.inl ⟨h1, by rw [h, toNat_toUInt8 (by omega)]⟩
  all_goals refine Or.inr ⟨by omega, ?_⟩
  · rcases h with h | h
    · exact hlate _ (by omega) (by omega) h
    · exact hlate _ (by omega) (by omega) h
  · rcases h with h | h | h
    · exact hlate _ (by omega) (by omega) h
    · exact hlate _ (by omega) (by omega) h
    · exact hlate _ (by omega) (by omega) h
  · rcases h with h | h | h | h
    · exact hlate _ (by omega) (by omega) h
    · exact hlate _ (by omega) (by omega) h
    · exact hlate _ (by omega) (by omega) h
    · exact hlate _ (by omega) (by omega) h

/-- No byte of UTF-8 begins a mark of UTF-16, and only NUL has a zero. -/
theorem byte_of_mem_encodeChar {c : Char} (h : b ∈ encodeChar c) :
    b.toNat < 0xFE ∧ (b.toNat = 0 → c.toNat = 0) := by
  rcases byte_cases h with ⟨hc, hb⟩ | ⟨hc, hle, hlt⟩
  · exact ⟨by omega, fun h0 => hb ▸ h0⟩
  · exact ⟨hlt, by omega⟩

/-- A byte below 128 is only in its own character. -/
theorem toNat_eq_of_mem_encodeChar {c : Char} (h : b ∈ encodeChar c) (hb : b.toNat < 0x80) :
    c.toNat = b.toNat := by
  rcases byte_cases h with ⟨-, he⟩ | ⟨-, hle, -⟩
  · exact he.symm
  · omega

/-- The bytes of ASCII characters are their numbers. -/
theorem encode_of_isAscii (h : ∀ c ∈ l, c.toNat < 128) :
    encode l = l.map fun c => c.toNat.toUInt8 := by
  induction l with
  | nil => rfl
  | cons c l ih =>
    obtain ⟨hc, hl⟩ := List.forall_mem_cons.mp h
    have hchar : encodeChar c = [c.toNat.toUInt8] := if_pos hc
    rw [encode, List.flatMap_cons, hchar, ← encode, ih hl]
    rfl

/-- ASCII characters take one byte each. -/
theorem size_of_isAscii (h : ∀ c ∈ l, c.toNat < 128) : size l = l.length := by
  induction l with
  | nil => rfl
  | cons c l ih =>
    obtain ⟨hc, hl⟩ := List.forall_mem_cons.mp h
    have hchar : charSize c = 1 := by rw [charSize, encodeChar, if_pos hc]; rfl
    rw [size, List.foldr_cons, hchar, ← size, ih hl, List.length_cons, Nat.add_comm]

theorem beq_of_isAscii {c d : Char} (hc : c.toNat < 128) (hd : d.toNat < 128) :
    (c.toNat.toUInt8 == d.toNat.toUInt8) = (c == d) := by
  rw [Bool.eq_iff_iff, beq_iff_eq, beq_iff_eq]
  constructor
  · intro h
    have hn := congrArg UInt8.toNat h
    rw [toNat_toUInt8 (by omega), toNat_toUInt8 (by omega)] at hn
    exact Char.toNat_inj.mp hn
  · rintro rfl
    rfl

theorem encode_inj {l' : List Char} : encode l = encode l' ↔ l = l' := by
  refine ⟨fun h => ?_, congrArg _⟩
  have hrun := run_encode l
  rw [h, run_encode] at hrun
  exact (Prod.mk.inj hrun).2.symm

end Utf8

/-! ## UTF-16 -/

namespace Utf16

variable {order : ByteOrder} {u : Nat}

theorem exists_unitBytes (order : ByteOrder) (hu : u < 65536) :
    ∃ a b, unitBytes order u = [a, b] ∧ unitOf order a b = u := by
  have hlow : (u % 256).toUInt8.toNat = u % 256 := Utf8.toNat_toUInt8 (Nat.mod_lt _ (by decide))
  have hhigh : (u / 256).toUInt8.toNat = u / 256 := Utf8.toNat_toUInt8 (by omega)
  cases order with
  | little =>
    refine ⟨_, _, rfl, ?_⟩
    rw [unitOf, hlow, hhigh, Nat.mod_add_div]
  | big =>
    refine ⟨_, _, rfl, ?_⟩
    rw [unitOf, hlow, hhigh, Nat.div_add_mod]

theorem feed_unitBytes (high : Option Nat) (hu : u < 65536) :
    feed (step order) { high } (unitBytes order u) = stepUnit high u := by
  obtain ⟨a, b, hbytes, hunit⟩ := exists_unitBytes order hu
  simp [hbytes, feed, step, hunit]

theorem feed_unitsOf (c : Char) :
    feed (step order) {} ((unitsOf c).flatMap (unitBytes order)) = ({}, [c]) := by
  have hc := Utf8.toNat_bounds c
  unfold unitsOf
  dsimp only
  split
  · next hlt =>
    -- a character of one unit is no surrogate
    rw [List.flatMap_singleton, feed_unitBytes none hlt, stepUnit, begin, if_neg (by omega),
      if_neg (by omega), Char.ofNat_toNat]
  · next hge =>
    have hhigh : 0xD800 + (c.toNat - 0x10000) / 1024 < 0xDC00 := by omega
    have hlow : (c.toNat - 0x10000) % 1024 < 1024 := Nat.mod_lt _ (by decide)
    rw [List.flatMap_cons, List.flatMap_singleton, feed_append, feed_unitBytes none (by omega),
      stepUnit, begin, if_pos (by omega)]
    dsimp only
    rw [feed_unitBytes _ (by omega), stepUnit, if_pos (by omega)]
    have hnat : 0x10000 + (0xD800 + (c.toNat - 0x10000) / 1024 - 0xD800) * 1024 +
        (0xDC00 + (c.toNat - 0x10000) % 1024 - 0xDC00) = c.toNat := by
      omega
    rw [hnat, Char.ofNat_toNat]
    rfl

theorem run_encode (text : List Char) : run order {} (encode order text) = ({}, text) := by
  rw [run_eq_feed]
  induction text with
  | nil => rfl
  | cons c text ih =>
    have he : encode order (c :: text) =
        (unitsOf c).flatMap (unitBytes order) ++ encode order text := by
      simp only [encode, List.flatMap_cons, List.flatMap_append]
    rw [he, feed_append, feed_unitsOf, ih]
    rfl

end Utf16

/-! ## Encodings and their marks -/

namespace Encoding

variable {e : Encoding} {text : List Char} {bytes : List UInt8}

theorem decodePart_encode (e : Encoding) (text : List Char) :
    e.decodePart (e.encode text) = text := by
  cases e with
  | utf8 => exact congrArg Prod.snd (Utf8.run_encode text)
  | utf16 order => exact congrArg Prod.snd (Utf16.run_encode text)

theorem decode_encode (e : Encoding) (text : List Char) : e.decode (e.encode text) = text := by
  cases e with
  | utf8 =>
    show (Utf8.run .start (Utf8.encode text)).2 ++
      Utf8.flush (Utf8.run .start (Utf8.encode text)).1 = text
    rw [Utf8.run_encode]
    exact List.append_nil text
  | utf16 order =>
    show (Utf16.run order {} (Utf16.encode order text)).2 ++
      Utf16.flush (Utf16.run order {} (Utf16.encode order text)).1 = text
    rw [Utf16.run_encode]
    exact List.append_nil text

theorem mark_eq (e : Encoding) : e.mark = e.encode ['\uFEFF'] := by
  rcases e with _ | (_ | _) <;> decide

/-- A text that begins with a mark begins with U+FEFF. -/
theorem head?_of_isMarked (h : e.mark <+: e.encode text) : text.head? = some '\uFEFF' := by
  have hp := decodePart_mono (e := e) h
  rw [mark_eq, decodePart_encode, decodePart_encode] at hp
  obtain ⟨rest, rfl⟩ := hp
  rfl

theorem dropMark_mark (e : Encoding) (bytes : List UInt8) :
    e.dropMark (e.mark ++ bytes) = bytes := by
  rw [dropMark, if_pos (List.isPrefixOf_iff_prefix.mpr (List.prefix_append _ _)), List.drop_left]

theorem dropMark_encode (h : text.head? ≠ some '\uFEFF') :
    e.dropMark (e.encode text) = e.encode text := by
  rw [dropMark, if_neg fun hp => h (head?_of_isMarked (List.isPrefixOf_iff_prefix.mp hp))]

theorem ofMark?_mark (e : Encoding) (bytes : List UInt8) : ofMark? (e.mark ++ bytes) = some e := by
  rcases e with _ | (_ | _) <;> simp [ofMark?, mark, List.isPrefixOf]

theorem ofMark?_eq_none_iff : ofMark? bytes = none ↔ ∀ e : Encoding, ¬e.mark <+: bytes := by
  rw [ofMark?, List.find?_eq_none]
  simp only [List.isPrefixOf_iff_prefix]
  refine ⟨fun h e => h e ?_, fun h e _ => h e⟩
  rcases e with _ | (_ | _) <;> decide

/-! ## The count of zeros -/

/-- A Latin character in UTF-16: a byte that is not zero, and one that is. -/
def pair : Utf16.ByteOrder → UInt8 → List UInt8
  | .little, b => [b, 0]
  | .big, b => [0, b]

theorem zeros_of_notMem : ∀ {bytes : List UInt8}, 0 ∉ bytes → ∃ pairs, zeros bytes = (pairs, 0, 0)
  | [], _ => ⟨0, rfl⟩
  | [_], _ => ⟨0, rfl⟩
  | a :: b :: bytes, h => by
    simp only [List.mem_cons, not_or] at h
    obtain ⟨pairs, hz⟩ := zeros_of_notMem h.2.2
    exact ⟨pairs + 1, by simp [zeros, hz, Ne.symm h.1, Ne.symm h.2.1]⟩

theorem zeros_pairs (order : Utf16.ByteOrder) (h : 0 ∉ bytes) :
    zeros (bytes.flatMap (pair order)) = match order with
      | .little => (bytes.length, 0, bytes.length)
      | .big => (bytes.length, bytes.length, 0) := by
  induction bytes with
  | nil => cases order <;> rfl
  | cons b bytes ih =>
    simp only [List.mem_cons, not_or] at h
    cases order <;> simp [pair, zeros, ih h.2, Ne.symm h.1]

theorem take_pairs (order : Utf16.ByteOrder) (n : Nat) (bytes : List UInt8) :
    (bytes.flatMap (pair order)).take (2 * n) = (bytes.take n).flatMap (pair order) := by
  induction n generalizing bytes with
  | zero => rfl
  | succ n ih =>
    cases bytes with
    | nil => rfl
    | cons b bytes =>
      rw [List.take_succ_cons, List.flatMap_cons, List.flatMap_cons, ← ih bytes, Nat.mul_succ]
      cases order <;> rfl

/-- No mark has a zero in its first pair. -/
theorem ofMark?_pair (order : Utf16.ByteOrder) (b : UInt8) (r : List UInt8) :
    ofMark? (pair order b ++ r) = none := by
  rw [ofMark?_eq_none_iff]
  rintro (_ | (_ | _)) <;> cases order <;> simp [mark, pair]

theorem detect?_pairs {order : Utf16.ByteOrder} (h : 0 ∉ bytes) (hne : bytes ≠ []) :
    detect? (bytes.flatMap (pair order)) = some (utf16 order) := by
  have hmark : ofMark? (bytes.flatMap (pair order)) = none := by
    cases bytes with
    | nil => exact absurd rfl hne
    | cons b bytes => exact ofMark?_pair order b _
  have hlength := List.length_pos_iff.mpr hne
  rw [detect?, hmark]
  have hz := zeros_pairs order h
  cases order with
  | little => simp only [hz]; rw [if_pos (by omega)]
  | big => simp only [hz]; rw [if_neg (by omega), if_pos (by omega)]

/-! ## Forms of a text -/

/-- A text that is told from its bytes without a mark. -/
def GoesUnmarked : Encoding → List Char → Prop
  | utf8, text => '\x00' ∉ text
  | utf16 _, text => text ≠ [] ∧ ∀ c ∈ text, 1 ≤ c.toNat ∧ c.toNat ≤ 0xFF

/-- The bytes in which a text may come. -/
inductive IsForm (e : Encoding) (text : List Char) : List UInt8 → Prop where
  | marked : IsForm e text (e.mark ++ e.encode text)
  | unmarked (h : GoesUnmarked e text) : IsForm e text (e.encode text)

theorem encode_latin {order : Utf16.ByteOrder} (h : ∀ c ∈ text, c.toNat ≤ 0xFF) :
    Utf16.encode order text = (text.map fun c => c.toNat.toUInt8).flatMap (pair order) := by
  induction text with
  | nil => rfl
  | cons c text ih =>
    obtain ⟨hc, htext⟩ := List.forall_mem_cons.mp h
    have hunit : Utf16.unitsOf c = [c.toNat] := by
      rw [Utf16.unitsOf]
      exact if_pos (by omega)
    have hbytes : Utf16.unitBytes order c.toNat = pair order c.toNat.toUInt8 := by
      have hmod : c.toNat % 256 = c.toNat := Nat.mod_eq_of_lt (by omega)
      have hdiv : c.toNat / 256 = 0 := Nat.div_eq_of_lt (by omega)
      cases order <;> rw [Utf16.unitBytes, hmod, hdiv] <;> rfl
    rw [List.map_cons, List.flatMap_cons, ← ih htext, ← hbytes]
    simp only [Utf16.encode, List.flatMap_cons, hunit, List.singleton_append]

theorem byte_of_mem_encode {b : UInt8} (h : b ∈ Utf8.encode text) :
    b.toNat < 0xFE ∧ (b.toNat = 0 → '\x00' ∈ text) := by
  obtain ⟨c, hc, hb⟩ := List.mem_flatMap.mp h
  obtain ⟨hlt, hzero⟩ := Utf8.byte_of_mem_encodeChar hb
  refine ⟨hlt, fun h0 => ?_⟩
  have he : c = '\x00' := Char.toNat_inj.mp (hzero h0)
  rw [← he]
  exact hc

/-- Nothing speaks against UTF-8 in a text without NUL. -/
theorem detect?_utf8 (n : Nat) (hhead : text.head? ≠ some '\uFEFF') (h : '\x00' ∉ text) :
    detect? ((Utf8.encode text).take n) = none := by
  have hmark : ofMark? ((Utf8.encode text).take n) = none := by
    refine ofMark?_eq_none_iff.mpr fun e hp => ?_
    have hp' := hp.trans (List.take_prefix n _)
    have hfirst : ∀ b, e.mark.head? = some b → b.toNat < 0xFE := by
      intro b hb
      exact (byte_of_mem_encode (hp'.subset (List.mem_of_mem_head? hb))).1
    rcases e with _ | (_ | _)
    · exact hhead (head?_of_isMarked (e := utf8) hp')
    · exact absurd (hfirst 0xFF rfl) (by decide)
    · exact absurd (hfirst 0xFE rfl) (by decide)
  have hzero : 0 ∉ (Utf8.encode text).take n := by
    intro h0
    exact h ((byte_of_mem_encode (List.mem_of_mem_take h0)).2 rfl)
  obtain ⟨pairs, hz⟩ := zeros_of_notMem hzero
  rw [detect?, hmark]
  simp only [hz]
  rw [if_neg (by omega), if_neg (by omega)]

theorem detect?_utf16 {n : Nat} {order : Utf16.ByteOrder} (hn : 0 < n)
    (h : GoesUnmarked (utf16 order) text) :
    detect? ((Utf16.encode order text).take (2 * n)) = some (utf16 order) := by
  obtain ⟨hne, hlatin⟩ := h
  -- an even number of bytes is a number of whole characters
  rw [encode_latin fun c hc => (hlatin c hc).2, take_pairs]
  refine detect?_pairs ?_ ?_
  · intro h0
    obtain ⟨c, hc, he⟩ := List.mem_map.mp (List.mem_of_mem_take h0)
    obtain ⟨hlow, hhigh⟩ := hlatin c hc
    have hbyte := Utf8.toNat_toUInt8 (n := c.toNat) (by omega)
    rw [he] at hbyte
    have hzero : (0 : UInt8).toNat = 0 := rfl
    omega
  · cases text with
    | nil => exact absurd rfl hne
    | cons c text =>
      obtain ⟨m, rfl⟩ := Nat.exists_eq_succ_of_ne_zero (Nat.pos_iff_ne_zero.mp hn)
      exact List.cons_ne_nil _ _

/-- **The first bytes tell the encoding.** -/
theorem detect?_take {n : Nat} (hn : 2 ≤ n) (hhead : text.head? ≠ some '\uFEFF')
    (h : IsForm e text bytes) : (detect? (bytes.take (2 * n))).getD .utf8 = e := by
  cases h with
  | marked =>
    have hlength := length_mark_le e
    rw [List.take_append, List.take_of_length_le (by omega), detect?, ofMark?_mark]
    rfl
  | unmarked h =>
    cases e with
    | utf8 => rw [encode, detect?_utf8 _ hhead h, Option.getD_none]
    | utf16 order => rw [encode, detect?_utf16 (by omega) h, Option.getD_some]

/-- Dropping marks leaves the bytes of the text. -/
theorem dropMark_dropMark (hhead : text.head? ≠ some '\uFEFF') (h : IsForm e text bytes) :
    e.dropMark (e.dropMark bytes) = e.encode text := by
  cases h with
  | marked => rw [dropMark_mark, dropMark_encode hhead]
  | unmarked => rw [dropMark_encode hhead, dropMark_encode hhead]

end Encoding

end RemoteSearch.Text

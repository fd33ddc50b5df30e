import RemoteSearch.Text.Encoding

/-!
# Decoding a stream in parts

Both decoders are machines over single bytes. So a first part of a stream decodes to the beginning
of what the whole stream decodes to, wherever it is cut; what is shown for a character that the cut
breaks off is no line feed.

* `feed` runs any such machine, and `feed_append` is its law for the parts of a stream.
* `decodePart_mono`: decoding a first part gives a first part of the text.
-/

namespace RemoteSearch.Text

/-! ## Machines over bytes -/

/-- The state of a machine after some bytes, and the characters that it gives on the way. -/
def feed {σ : Type} (step : σ → UInt8 → σ × List Char) (s : σ) : List UInt8 → σ × List Char
  | [] => (s, [])
  | b :: bytes =>
    let (s, out) := step s b
    let (s, more) := feed step s bytes
    (s, out ++ more)

section Machine

variable {σ : Type} {step : σ → UInt8 → σ × List Char}

/-- **The parts of a stream are fed one after another.** -/
theorem feed_append (s : σ) (a b : List UInt8) :
    feed step s (a ++ b) =
      ((feed step (feed step s a).1 b).1,
        (feed step s a).2 ++ (feed step (feed step s a).1 b).2) := by
  induction a generalizing s with
  | nil => simp [feed]
  | cons x a ih => simp [feed, ih]

/-- A fold that gathers the characters of a machine in reverse. -/
theorem foldl_eq_feed (step : σ → UInt8 → σ × List Char) {f : σ × List Char → UInt8 → σ × List Char}
    (hf : ∀ s out b, f (s, out) b = ((step s b).1, (step s b).2.reverse ++ out)) (s : σ)
    (out : List Char) (bytes : List UInt8) :
    bytes.foldl f (s, out) = ((feed step s bytes).1, (feed step s bytes).2.reverse ++ out) := by
  induction bytes generalizing s out with
  | nil => simp [feed]
  | cons b bytes ih => simp [feed, hf, ih]

end Machine

theorem Utf8.run_eq_feed (s : Utf8.State) (bytes : List UInt8) :
    Utf8.run s bytes = feed Utf8.step s bytes := by
  unfold Utf8.run
  rw [foldl_eq_feed Utf8.step fun s out b => by simp]
  simp

theorem Utf16.run_eq_feed (order : Utf16.ByteOrder) (s : Utf16.State) (bytes : List UInt8) :
    Utf16.run order s bytes = feed (Utf16.step order) s bytes := by
  unfold Utf16.run
  rw [foldl_eq_feed (Utf16.step order) fun s out b => by simp]
  simp

/-! ## Parts of a text -/

namespace Encoding

variable {e : Encoding} {a b : List UInt8}

/-- **A first part of a stream decodes to a first part of the text.** -/
theorem decodePart_mono (h : a <+: b) : e.decodePart a <+: e.decodePart b := by
  obtain ⟨r, rfl⟩ := h
  cases e with
  | utf8 => simp [decodePart, Utf8.run_eq_feed, feed_append]
  | utf16 order => simp [decodePart, Utf16.run_eq_feed, feed_append]

/-- The end of a stream adds nothing but the sign for what it breaks off. -/
theorem decode_eq_decodePart_append (e : Encoding) (bytes : List UInt8) :
    ∃ broken, e.decode bytes = e.decodePart bytes ++ broken ∧ '\n' ∉ broken := by
  cases e with
  | utf8 =>
    refine ⟨_, rfl, ?_⟩
    unfold Utf8.flush
    split <;> decide
  | utf16 order =>
    refine ⟨_, rfl, ?_⟩
    unfold Utf16.flush
    split <;> decide

/-! ## Marks -/

theorem length_mark_le (e : Encoding) : e.mark.length ≤ 3 := by
  rcases e with _ | (_ | _) <;> decide

/-- What comes later does not matter for a mark. -/
theorem dropMark_append (h : 3 ≤ a.length) (b : List UInt8) :
    e.dropMark (a ++ b) = e.dropMark a ++ b := by
  have hle : e.mark.length ≤ a.length := Nat.le_trans (length_mark_le e) h
  have hmark : e.mark.isPrefixOf (a ++ b) = e.mark.isPrefixOf a := by
    rw [Bool.eq_iff_iff, List.isPrefixOf_iff_prefix, List.isPrefixOf_iff_prefix]
    exact ⟨fun hp => List.prefix_of_prefix_length_le hp (List.prefix_append a b) hle,
      fun hp => hp.trans (List.prefix_append a b)⟩
  unfold dropMark
  rw [hmark]
  split
  · rw [List.drop_append_of_le_length hle]
  · rfl

theorem length_dropMark (e : Encoding) (bytes : List UInt8) :
    bytes.length ≤ (e.dropMark bytes).length + 3 := by
  have := length_mark_le e
  unfold dropMark
  split
  · rw [List.length_drop]
    omega
  · omega

end Encoding

end RemoteSearch.Text

import Mathlib.Tactic.SplitIfs
import RemoteSearch.Local.Drain
import RemoteSearch.Proofs.Text.Decoding

/-!
# Decoding line by line

A line feed brings the decoder back between two characters, whatever it stood in: no byte that goes
on with a character is one. So the lines of a stream can be decoded one by one. A line that has not
come to its end is not decoded before the stream has.

* `decode_append_of_isClosed`: decoding closed lines and what follows them is decoding the whole.
* `drainFrom_eq`: what is taken up is the closed lines; `drainFrom_append`: bytes can come in parts.
* `drained_text_eq_iff`: what is there of an output that has ended, and of one that is given up.
-/

namespace RemoteSearch

variable {s : Text.Utf8.State} {bytes a b line closed rest : List UInt8}

namespace Text.Utf8

/-! ## Back between characters -/

/-- Between characters, or inside one that only goes on with bytes from 0x80. -/
def State.IsSound : State → Prop
  | .start => True
  | .inside _ _ low _ => 0x80 ≤ low

/-- What a step comes to: the byte is shown, or the decoder is inside of a character. -/
structure IsStep (r : State × List Char) : Prop where
  isSound : r.1.IsSound
  shows : r.2 ++ flush r.1 ≠ []

theorem isStep_of_begin? {n : Nat} {r : State × List Char} (h : begin? n = some r) : IsStep r := by
  unfold begin? at h
  split_ifs at h <;> cases h <;> exact ⟨by simp [State.IsSound], by simp [flush]⟩

theorem isStep_of_continue? {n : Nat} {r : State × List Char} (h : continue? s n = some r) :
    IsStep r := by
  cases s with
  | start => exact isStep_of_begin? h
  | inside bits needed low high =>
    simp only [continue?] at h
    split_ifs at h <;> cases h <;> exact ⟨by simp [State.IsSound], by simp [flush]⟩

theorem isStep_step (s : State) (byte : UInt8) : IsStep (step s byte) := by
  unfold step
  split
  · next h => exact isStep_of_continue? h
  · cases s with
    | start => exact ⟨trivial, by simp⟩
    | inside bits needed low high =>
      dsimp only
      split
      · next out h => exact ⟨(isStep_of_begin? h).isSound, by simp⟩
      · exact ⟨trivial, by simp⟩

theorem isSound_feed (h : s.IsSound) (bytes : List UInt8) : (feed step s bytes).1.IsSound := by
  induction bytes generalizing s with
  | nil => exact h
  | cons b bytes ih => exact ih (isStep_step s b).isSound

/-- A line feed is a character of its own, whatever it comes after. -/
theorem step_lineFeed (h : s.IsSound) : (step s 10).1 = .start := by
  cases s with
  | start => rfl
  | inside bits needed low high =>
    have hlow : 0x80 ≤ low := h
    have hcontinue : continue? (.inside bits needed low high) (10 : UInt8).toNat = none :=
      if_neg (show ¬(low ≤ 10 ∧ 10 ≤ high) by omega)
    unfold step
    rw [hcontinue]
    rfl

theorem decode_eq_feed (bytes : List UInt8) :
    decode bytes = (feed step .start bytes).2 ++ flush (feed step .start bytes).1 := by
  unfold decode
  rw [run_eq_feed]

/-- **Bytes are not decoded to nothing.** -/
theorem decode_eq_nil_iff : decode bytes = [] ↔ bytes = [] := by
  constructor
  · intro h
    rcases List.eq_nil_or_concat bytes with rfl | ⟨front, b, rfl⟩
    · rfl
    · -- the last byte is shown at the end
      rw [List.concat_eq_append, decode_eq_feed, feed_append, List.append_assoc] at h
      have hshows := (isStep_step (feed step .start front).1 b).shows
      refine absurd ?_ hshows
      simpa [feed] using (List.append_eq_nil_iff.mp h).2
  · rintro rfl
    rfl

/-- Bytes that end where a line ends. -/
def IsClosed (bytes : List UInt8) : Prop := bytes = [] ∨ bytes.getLast? = some 10

theorem IsClosed.append (ha : IsClosed a) (hb : IsClosed b) : IsClosed (a ++ b) := by
  rcases hb with rfl | hb
  · rwa [List.append_nil]
  · refine Or.inr ?_
    rw [List.getLast?_append, hb]
    rfl

/-- What is behind the last line feed does not end where a line ends. -/
theorem IsClosed.eq_nil (h : IsClosed (a ++ b)) (hb : 10 ∉ b) : b = [] := by
  rcases List.eq_nil_or_concat b with rfl | ⟨front, x, rfl⟩
  · rfl
  · have hx : x = 10 := by simpa [IsClosed] using h
    exact absurd (by simp [hx]) hb

theorem feed_of_isClosed (h : IsClosed bytes) : (feed step .start bytes).1 = .start := by
  rcases List.eq_nil_or_concat bytes with rfl | ⟨front, b, rfl⟩
  · rfl
  · have hb : b = 10 := by simpa [IsClosed] using h
    rw [List.concat_eq_append, feed_append, hb]
    exact step_lineFeed (isSound_feed (s := .start) trivial front)

/-- **What comes before the end of a line is decoded by itself.** -/
theorem decode_append_of_isClosed (h : IsClosed a) (b : List UInt8) :
    decode (a ++ b) = decode a ++ decode b := by
  simp only [decode_eq_feed, feed_append, feed_of_isClosed h, flush, List.append_nil,
    List.append_assoc]

end Text.Utf8

namespace Local

open Text Utf8

variable {text : List Char}

/-! ## Lines of bytes -/

/-- Bytes are those of lines that have come to their end, and of one that has not. -/
structure IsDivided (bytes closed rest : List UInt8) : Prop where
  eq : bytes = closed ++ rest
  isClosed : IsClosed closed
  notMem : 10 ∉ rest

theorem IsDivided.append (h : IsDivided a closed rest) (h' : IsDivided (rest ++ b) line bytes) :
    IsDivided (a ++ b) (closed ++ line) bytes where
  eq := by rw [h.eq, List.append_assoc, h'.eq, List.append_assoc]
  isClosed := h.isClosed.append h'.isClosed
  notMem := h'.notMem

theorem IsDivided.unique {closed' rest' : List UInt8} (h : IsDivided bytes closed rest)
    (h' : IsDivided bytes closed' rest') : closed = closed' ∧ rest = rest' := by
  have he : closed ++ rest = closed' ++ rest' := by rw [← h.eq, h'.eq]
  rcases List.append_eq_append_iff.mp he with ⟨x, rfl, rfl⟩ | ⟨x, rfl, rfl⟩
  · have hx : x = [] := h'.isClosed.eq_nil fun hm => h.notMem (List.mem_append_left _ hm)
    subst hx
    exact ⟨(List.append_nil _).symm, rfl⟩
  · have hx : x = [] := h.isClosed.eq_nil fun hm => h'.notMem (List.mem_append_left _ hm)
    subst hx
    exact ⟨List.append_nil _, rfl⟩

theorem notMem_of_cutLine (h : cutLine bytes = none) : 10 ∉ bytes := by
  induction bytes with
  | nil => exact List.not_mem_nil
  | cons b bytes ih =>
    rw [cutLine] at h
    split at h
    · cases h
    · next hb =>
      have := ih (Option.map_eq_none_iff.mp h)
      simp [Ne.symm hb, this]

theorem append_of_cutLine (h : cutLine bytes = some (line, rest)) :
    bytes = line ++ rest ∧ line.getLast? = some 10 := by
  induction bytes generalizing line with
  | nil => cases h
  | cons b bytes ih =>
    rw [cutLine] at h
    split at h
    · next hb =>
      subst hb
      cases h
      exact ⟨rfl, rfl⟩
    · obtain ⟨⟨front, rest⟩, hp, he⟩ := Option.map_eq_some_iff.mp h
      cases he
      obtain ⟨rfl, hlast⟩ := ih hp
      refine ⟨rfl, ?_⟩
      rw [List.getLast?_cons, hlast]
      rfl

/-! ## Taking up what arrives -/

/-- **What is taken up is the text of the lines that have come to their end.** -/
theorem exists_drainFrom (text : List Char) (arrived : List UInt8) :
    ∃ closed rest, IsDivided arrived closed rest ∧
      drainFrom text arrived = (text ++ decode closed, rest) := by
  fun_induction drainFrom text arrived with
  | case1 text arrived h =>
    exact ⟨[], arrived, ⟨rfl, Or.inl rfl, notMem_of_cutLine h⟩, by simp [decode_eq_nil_iff]⟩
  | case2 text arrived line rest h _ ih =>
    obtain ⟨closed, last, hd, he⟩ := ih
    obtain ⟨rfl, hline⟩ := append_of_cutLine h
    have hline : IsClosed line := Or.inr hline
    refine ⟨line ++ closed, last, ⟨?_, hline.append hd.isClosed, hd.notMem⟩, ?_⟩
    · rw [hd.eq, List.append_assoc]
    · rw [he, decode_append_of_isClosed hline, List.append_assoc]

theorem drainFrom_eq (h : IsDivided bytes closed rest) (text : List Char) :
    drainFrom text bytes = (text ++ decode closed, rest) := by
  obtain ⟨closed', rest', hd, he⟩ := exists_drainFrom text bytes
  obtain ⟨rfl, rfl⟩ := h.unique hd
  exact he

/-- More bytes go on with the line that has not come to its end. -/
theorem drainFrom_append (text : List Char) (a b : List UInt8) :
    drainFrom text (a ++ b) = drainFrom (drainFrom text a).1 ((drainFrom text a).2 ++ b) := by
  obtain ⟨closed, rest, hd, he⟩ := exists_drainFrom text a
  obtain ⟨closed', rest', hd', he'⟩ := exists_drainFrom (text ++ decode closed) (rest ++ b)
  rw [drainFrom_eq (hd.append hd'), he, he', decode_append_of_isClosed hd.isClosed,
    List.append_assoc]

/-- Bytes that arrive in parts, each taken up when it is there: the text, and what is unfinished. -/
def takeUp (parts : List (List UInt8)) : List Char × List UInt8 :=
  parts.foldl (fun p part => drainFrom p.1 (p.2 ++ part)) ([], [])

/-- Each part goes on with all that has arrived before it. -/
theorem foldl_drainFrom (arrived : List UInt8) (parts : List (List UInt8)) :
    parts.foldl (fun p part => drainFrom p.1 (p.2 ++ part)) (drainFrom [] arrived) =
      drainFrom [] (arrived ++ parts.flatten) := by
  induction parts generalizing arrived with
  | nil => rw [List.flatten_nil, List.append_nil, List.foldl_nil]
  | cons part parts ih =>
    rw [List.foldl_cons, ← drainFrom_append, ih, List.flatten_cons, List.append_assoc]

/-- **In which parts the bytes arrive does not matter.** -/
theorem takeUp_eq (parts : List (List UInt8)) : takeUp parts = drainFrom [] parts.flatten := by
  have hstart : drainFrom [] [] = ([], []) := drainFrom_eq ⟨rfl, Or.inl rfl, List.not_mem_nil⟩ []
  unfold takeUp
  rw [← hstart, foldl_drainFrom, List.nil_append]

/--
**What is there of an output.** Take the bytes of an output that have arrived, in any parts. If the
output has ended, decoding it line by line is decoding it as a whole. If it is given up, what is
there is the text of the lines that have come to their end, and so it is the text of all that has
arrived exactly if that ends where a line ends.
-/
theorem drained_text_eq_iff (parts : List (List UInt8)) :
    let arrived := parts.flatten
    drain arrived true = decode arrived ∧ drain arrived false = (takeUp parts).1 ∧
      (∃ closed rest, IsDivided arrived closed rest ∧ takeUp parts = (decode closed, rest)) ∧
        (drain arrived false = decode arrived ↔ IsClosed arrived) := by
  intro arrived
  obtain ⟨closed, rest, hd, he⟩ := exists_drainFrom [] arrived
  have hwhole : decode arrived = decode closed ++ decode rest := by
    rw [hd.eq, decode_append_of_isClosed hd.isClosed]
  have hup : takeUp parts = (decode closed, rest) := (takeUp_eq parts).trans he
  have hended : drain arrived true = decode closed ++ decode rest := by
    rw [drain, he]
    rfl
  have hgiven : drain arrived false = decode closed := by
    rw [drain, he]
    rfl
  refine ⟨by rw [hended, hwhole], by rw [hgiven, hup], ⟨closed, rest, hd, hup⟩, ?_⟩
  rw [hgiven, hwhole, List.self_eq_append_right, decode_eq_nil_iff]
  constructor
  · rintro rfl
    rw [hd.eq, List.append_nil]
    exact hd.isClosed
  · intro hc
    rw [hd.eq] at hc
    exact hc.eq_nil hd.notMem

/-- **An unfinished line is lost** when its command is given up. -/
theorem unfinished_line_is_lost :
    let arrived := encode "begun".toList
    decode arrived = "begun".toList ∧ drain arrived false = [] ∧
      drain arrived false ≠ decode arrived := by
  decide +kernel

end Local

end RemoteSearch

import RemoteSearch.Proofs.Text.Decoding
import RemoteSearch.Transfer.Lines

/-!
# Lines of a broken stream

A stream that fails after some bytes gives the lines of these bytes that end in a line feed, and
they are the first lines of the whole stream.

* `IsDivided` is a text as its closed lines and the rest after them; `closedLines` gives just the
  closed ones (`IsDivided.closedLines_eq`).
* `closedLines_mono`: the lines of a first part of a text are the first lines of the text.
* `encodingOf_append`, `unmarked_append`: the encoding and the marks are settled by the sample.
-/

namespace RemoteSearch.Transfer

open Text

variable {text more rest : List Char} {closed : List (List Char)} {a b : List UInt8}

/-! ## Lines of a text -/

/-- A text is made of lines that end in a line feed each, and of a rest without one. -/
structure IsDivided (text : List Char) (closed : List (List Char)) (rest : List Char) : Prop where
  text_eq : text = closed.flatMap (fun line => line ++ ['\n']) ++ rest
  closed_noFeed : ∀ line ∈ closed, '\n' ∉ line
  rest_noFeed : '\n' ∉ rest

/-- **Every text can be divided.** -/
theorem exists_isDivided (text : List Char) : ∃ closed rest, IsDivided text closed rest := by
  induction text with
  | nil => exact ⟨[], [], rfl, by simp, by simp⟩
  | cons c text ih =>
    obtain ⟨closed, rest, rfl, hclosed, hrest⟩ := ih
    by_cases hc : c = '\n'
    · subst hc
      exact ⟨[] :: closed, rest, by simp, by simpa using hclosed, hrest⟩
    · -- the character belongs to the first line, or to the rest if no line is closed
      cases closed with
      | nil => exact ⟨[], c :: rest, by simp, by simp, by simp [Ne.symm hc, hrest]⟩
      | cons line closed =>
        obtain ⟨hline, hlines⟩ := List.forall_mem_cons.mp hclosed
        refine ⟨(c :: line) :: closed, rest, by simp, ?_, hrest⟩
        exact List.forall_mem_cons.mpr ⟨by simp [Ne.symm hc, hline], hlines⟩

/-- The pieces between the line feeds are the closed lines and the rest. -/
theorem IsDivided.splitAt_eq (h : IsDivided text closed rest) :
    splitAt '\n' text = closed ++ [rest] := by
  obtain ⟨rfl, hclosed, hrest⟩ := h
  induction closed with
  | nil => exact splitAt_of_notMem hrest
  | cons line closed ih =>
    obtain ⟨hline, hlines⟩ := List.forall_mem_cons.mp hclosed
    have he : (line :: closed).flatMap (fun line => line ++ ['\n']) ++ rest =
        line ++ '\n' :: (closed.flatMap (fun line => line ++ ['\n']) ++ rest) := by
      simp
    rw [he, splitAt_append_cons hline, ih hlines, List.cons_append]

theorem IsDivided.closedLines_eq (h : IsDivided text closed rest) :
    closedLines text = closed.map chomp := by
  rw [closedLines, h.splitAt_eq, List.dropLast_concat]

/-- More text goes on where the rest has stopped. -/
theorem IsDivided.append {closed' : List (List Char)} {rest' : List Char}
    (h : IsDivided text closed rest) (h' : IsDivided (rest ++ more) closed' rest') :
    IsDivided (text ++ more) (closed ++ closed') rest' where
  text_eq := by rw [h.text_eq, List.append_assoc, h'.text_eq]; simp
  closed_noFeed := by
    intro line hl
    rcases List.mem_append.mp hl with hl | hl
    · exact h.closed_noFeed line hl
    · exact h'.closed_noFeed line hl
  rest_noFeed := h'.rest_noFeed

/-- Text without a line feed closes no line. -/
theorem closedLines_append_of_noFeed (h : '\n' ∉ more) :
    closedLines (text ++ more) = closedLines text := by
  obtain ⟨closed, rest, hd⟩ := exists_isDivided text
  have hmore : IsDivided (rest ++ more) [] (rest ++ more) :=
    ⟨rfl, by simp, by simp [hd.rest_noFeed, h]⟩
  rw [(hd.append hmore).closedLines_eq, hd.closedLines_eq, List.append_nil]

/-- **The lines of a first part of a text are its first lines.** -/
theorem closedLines_mono {whole : List Char} (h : text <+: whole) :
    closedLines text <+: closedLines whole := by
  obtain ⟨more, rfl⟩ := h
  obtain ⟨closed, rest, hd⟩ := exists_isDivided text
  obtain ⟨closed', rest', hd'⟩ := exists_isDivided (rest ++ more)
  rw [hd.closedLines_eq, (hd.append hd').closedLines_eq, List.map_append]
  exact List.prefix_append _ _

theorem closedLines_prefix_allLines (text : List Char) : closedLines text <+: allLines text := by
  unfold allLines
  split
  · exact List.prefix_rfl
  · exact List.prefix_append _ _

/-! ## Lines of a stream -/

/-- The text that bytes stand for, in the encoding that their first ones tell. -/
def textOf (bytes : List UInt8) : List Char := (encodingOf bytes).decode (unmarked bytes)

/-- The sample settles the encoding. -/
theorem encodingOf_append (h : sampleSize ≤ a.length) (b : List UInt8) :
    encodingOf (a ++ b) = encodingOf a := by
  rw [encodingOf, List.take_append_of_le_length h, encodingOf]

/-- The sample holds the marks. -/
theorem unmarked_append (h : sampleSize ≤ a.length) (b : List UInt8) :
    unmarked (a ++ b) = unmarked a ++ b := by
  have hsize : sampleSize = 512 := rfl
  have hlength := (encodingOf a).length_dropMark a
  rw [unmarked, encodingOf_append h, Encoding.dropMark_append (by omega),
    Encoding.dropMark_append (by omega), unmarked]

/-- What the end of a stream breaks off is in none of its closed lines. -/
theorem closedLines_decode (e : Encoding) (bytes : List UInt8) :
    closedLines (e.decode bytes) = closedLines (e.decodePart bytes) := by
  obtain ⟨broken, he, hb⟩ := e.decode_eq_decodePart_append bytes
  rw [he, closedLines_append_of_noFeed hb]

/-- **The closed lines of a first part of a stream are the first lines of the stream.** -/
theorem closedLines_textOf_mono (h : sampleSize ≤ a.length) (hab : a <+: b) :
    closedLines (textOf a) <+: allLines (textOf b) := by
  obtain ⟨r, rfl⟩ := hab
  refine List.IsPrefix.trans ?_ (closedLines_prefix_allLines _)
  -- of what is decoded, only the part without the end of the stream is monotone
  rw [textOf, textOf, encodingOf_append h, unmarked_append h, closedLines_decode,
    closedLines_decode]
  exact closedLines_mono (Encoding.decodePart_mono (List.prefix_append _ _))

theorem ofDelivery?_whole (bytes : List UInt8) :
    LineSequence.ofDelivery? ⟨bytes, none⟩ =
      some ⟨(allLines (textOf bytes)).map String.ofList, false⟩ := rfl

/-- A stream that fails late enough gives the closed lines of its bytes. -/
theorem ofDelivery?_broken (reason : String) (h : sampleSize ≤ a.length) :
    LineSequence.ofDelivery? ⟨a, some reason⟩ =
      some ⟨(closedLines (textOf a)).map String.ofList, true⟩ := by
  have hbroken : Delivery.isBroken ⟨a, some reason⟩ = true := rfl
  simp only [LineSequence.ofDelivery?, hbroken, if_true, Nat.not_lt.mpr h, if_false, textOf,
    closedLines_decode]

/-- A stream that fails earlier gives none. -/
theorem ofDelivery?_early (reason : String) (h : a.length < sampleSize) :
    LineSequence.ofDelivery? ⟨a, some reason⟩ = none := by
  have hbroken : Delivery.isBroken ⟨a, some reason⟩ = true := rfl
  simp only [LineSequence.ofDelivery?, hbroken, if_true, h]

end RemoteSearch.Transfer

import RemoteSearch.Proofs.Text.Encoding
import RemoteSearch.Proofs.Transfer.Lines
import RemoteSearch.Transfer.Stream

/-!
# Reading a stream to its end

A stream that is read line by line gives the lines of its text, each once, and then nothing however
often it is asked. So lines that are written out with any terminators, in any encoding that can be
told from its first bytes, are read back.

* `LineStream.reads_all`: a stream gives the lines of its text and keeps the reason if it fails.
* `allLines_of_isWritten`: the lines of a text are those it was written from.
* `encoded_lines_read_back`: both of them behind the decoders.
-/

namespace RemoteSearch.Transfer

open Text

variable {text line rest : List Char} {closed lines : List (List Char)}

/-! ## Written lines -/

/-- A line of text: it has no line feed, and a carriage return is not its end. -/
structure IsLine (line : List Char) : Prop where
  noFeed : '\n' ∉ line
  noReturn : line.getLast? ≠ some '\r'

theorem IsLine.chomp_eq (h : IsLine line) : chomp line = line := by
  rcases List.eq_nil_or_concat line with rfl | ⟨front, c, rfl⟩
  · rfl
  · rw [List.concat_eq_append] at h ⊢
    refine dropEndWhile_append_singleton ?_ front
    have hfeed : c ≠ '\n' := by
      rintro rfl
      exact h.noFeed (List.mem_append_right _ (List.mem_singleton_self _))
    have hreturn : c ≠ '\r' := by
      rintro rfl
      exact h.noReturn List.getLast?_concat
    simp [hfeed, hreturn]

theorem chomp_return (line : List Char) : chomp (line ++ ['\r']) = chomp line := by
  simp [chomp, dropEndWhile]

/-- A text that is made of lines. Each may end in a line feed, with or without a carriage return
before it, and the last one in neither unless it is empty. -/
inductive IsWritten : List (List Char) → List Char → Prop where
  | nil : IsWritten [] []
  | unterminated {line : List Char} (h : IsLine line) (hne : line ≠ []) : IsWritten [line] line
  | feed {line rest : List Char} {lines : List (List Char)} (h : IsLine line)
    (hr : IsWritten lines rest) : IsWritten (line :: lines) (line ++ '\n' :: rest)
  | returnFeed {line rest : List Char} {lines : List (List Char)} (h : IsLine line)
    (hr : IsWritten lines rest) : IsWritten (line :: lines) (line ++ '\r' :: '\n' :: rest)

theorem IsDivided.cons (h : IsDivided text closed rest) (hl : '\n' ∉ line) :
    IsDivided (line ++ '\n' :: text) (line :: closed) rest where
  text_eq := by simp [h.text_eq]
  closed_noFeed := List.forall_mem_cons.mpr ⟨hl, h.closed_noFeed⟩
  rest_noFeed := h.rest_noFeed

theorem IsDivided.allLines_eq (h : IsDivided text closed rest) :
    allLines text = closed.map chomp ++ if rest.isEmpty then [] else [chomp rest] := by
  have hopen : openLine text = rest := by
    rw [openLine, h.splitAt_eq, List.getLast?_concat, Option.getD_some]
  rw [allLines, hopen, h.closedLines_eq]
  split
  · rw [List.append_nil]
  · rfl

/-- **The lines of a text are those that it was written from.** -/
theorem allLines_of_isWritten (h : IsWritten lines text) : allLines text = lines := by
  -- the invariant is about the pieces between line feeds, which keep their carriage returns
  have hdivided : ∃ closed rest, IsDivided text closed rest ∧
      closed.map chomp ++ (if rest.isEmpty then [] else [chomp rest]) = lines := by
    induction h with
    | nil => exact ⟨[], [], ⟨rfl, by simp, by simp⟩, rfl⟩
    | @unterminated line h hne =>
      refine ⟨[], line, ⟨rfl, by simp, h.noFeed⟩, ?_⟩
      rw [if_neg (by simpa using hne), h.chomp_eq]
      rfl
    | @feed line lines rest h hr ih =>
      obtain ⟨closed, last, hd, hlines⟩ := ih
      refine ⟨line :: closed, last, hd.cons h.noFeed, ?_⟩
      rw [List.map_cons, List.cons_append, hlines, h.chomp_eq]
    | @returnFeed line lines rest h hr ih =>
      obtain ⟨closed, last, hd, hlines⟩ := ih
      have hnoFeed : '\n' ∉ line ++ ['\r'] := by
        simpa using h.noFeed
      refine ⟨(line ++ ['\r']) :: closed, last, ?_, ?_⟩
      · have hd' := hd.cons hnoFeed
        rwa [List.append_assoc, List.singleton_append] at hd'
      · rw [List.map_cons, List.cons_append, hlines, chomp_return, h.chomp_eq]
  obtain ⟨closed, rest, hd, hlines⟩ := hdivided
  rw [hd.allLines_eq, hlines]

/-! ## Reading -/

namespace LineStream

variable {s s' s'' : LineStream}

/-- The lines of a stream that has not been read, all at once. -/
def all (s : LineStream) : LineSequence :=
  ⟨(if s.failure.isSome then closedLines s.text else allLines s.text).map String.ofList,
    s.failure.isSome⟩

/-- Some lines of a stream, read one after another. -/
inductive Reads : LineStream → List String → LineStream → Prop where
  | nil (s : LineStream) : Reads s [] s
  | cons {s s' last : LineStream} {line : String} {lines : List String}
    (h : s.next = (some line, s')) (hr : Reads s' lines last) : Reads s (line :: lines) last

theorem Reads.append {a b : List String} (h : Reads s a s') (h' : Reads s' b s'') :
    Reads s (a ++ b) s'' := by
  induction h with
  | nil s => exact h'
  | cons h _ ih => exact .cons h (ih h')

/-- Reading gives these lines and counts them. Then it gives nothing, however often it is asked, and
what it keeps is the reason why the stream has failed, if it has. -/
def ReadsOut (s : LineStream) (lines : List String) : Prop :=
  ∃ s' last, Reads s lines s' ∧ s'.linesRead = s.linesRead + lines.length ∧
    s'.next = (none, last) ∧ last.next = (none, last) ∧ last.linesRead = s'.linesRead ∧
    last.error = s.failure

theorem cutAt_of_notMem (h : '\n' ∉ text) : cutAt ['\n'] text = none := by
  cases hc : cutAt ['\n'] text with
  | none => rfl
  | some p =>
    refine absurd (isSome_cutAt_singleton.mp ?_) h
    rw [hc]
    rfl

theorem next_closed (hd : s.done = false) (hl : '\n' ∉ line) (ht : s.text = line ++ '\n' :: rest) :
    s.next = (some (String.ofList (chomp line)),
      { s with text := rest, linesRead := s.linesRead + 1 }) := by
  rw [next, hd, ht, cutAt_singleton hl]
  rfl

theorem reads_closed (hd : s.done = false) (ht : IsDivided s.text closed rest) :
    Reads s ((closed.map chomp).map String.ofList)
      { s with text := rest, linesRead := s.linesRead + closed.length } := by
  induction closed generalizing s with
  | nil =>
    have htext : s.text = rest := ht.text_eq
    cases s
    cases htext
    exact .nil _
  | cons line closed ih =>
    obtain ⟨hline, hlines⟩ := List.forall_mem_cons.mp ht.closed_noFeed
    have htext :
        s.text = line ++ '\n' :: (closed.flatMap (fun line => line ++ ['\n']) ++ rest) := by
      rw [ht.text_eq]
      simp
    refine .cons (next_closed hd hline htext) ?_
    have hrest := ih (s := { s with
      text := closed.flatMap (fun line => line ++ ['\n']) ++ rest
      linesRead := s.linesRead + 1 }) hd ⟨rfl, hlines, ht.rest_noFeed⟩
    simpa [Nat.add_assoc, Nat.add_comm 1] using hrest

theorem next_failed {reason : String} (hd : s.done = false) (ht : '\n' ∉ s.text)
    (hf : s.failure = some reason) :
    s.next = (none, { s with text := [], error := some reason, done := true }) := by
  rw [next, hd, cutAt_of_notMem ht]
  simp only [hf]
  rfl

theorem next_empty (hd : s.done = false) (ht : s.text = []) (hf : s.failure = none) :
    s.next = (none, { s with done := true }) := by
  rw [next, hd, ht]
  simp [cutAt, hf]

theorem next_last (hd : s.done = false) (ht : '\n' ∉ s.text) (hne : s.text ≠ [])
    (hf : s.failure = none) :
    s.next = (some (String.ofList (chomp s.text)),
      { s with text := [], linesRead := s.linesRead + 1 }) := by
  rw [next, hd, cutAt_of_notMem ht]
  simp [hf, hne]

theorem next_done (hd : s.done = true) : s.next = (none, s) := by
  rw [next, if_pos hd]

/-- **A stream is read to its end.** -/
theorem reads_all (he : s.error = none) (hd : s.done = false) : s.ReadsOut s.all.lines := by
  obtain ⟨closed, rest, ht⟩ := exists_isDivided s.text
  have hclosed := reads_closed hd ht
  unfold all
  cases hf : s.failure with
  | some reason =>
    -- what has no line feed is lost
    simp only [Option.isSome_some, if_true, ht.closedLines_eq]
    refine ⟨_, _, hclosed, ?_, next_failed hd ht.rest_noFeed hf, next_done rfl, rfl, hf.symm⟩
    simp
  | none =>
    simp only [Option.isSome_none, Bool.false_eq_true, if_false, ht.allLines_eq]
    by_cases hne : rest = []
    · subst hne
      have hempty := next_empty (s := { s with
        text := [], linesRead := s.linesRead + closed.length }) hd rfl hf
      refine ⟨_, _, ?_, ?_, hempty, next_done rfl, rfl, ?_⟩
      · simpa using hclosed
      · simp
      · rw [hf]
        exact he
    · have hlast := next_last (s := { s with
        text := rest, linesRead := s.linesRead + closed.length }) hd ht.rest_noFeed hne hf
      have hempty := next_empty (s := { s with
        text := [], linesRead := s.linesRead + closed.length + 1 }) hd rfl hf
      refine ⟨_, _, ?_, ?_, hempty, next_done rfl, rfl, ?_⟩
      · simpa [hne] using hclosed.append (.cons hlast (.nil _))
      · simp [hne]
        omega
      · rw [hf]
        exact he

/-- The lines of a delivery, all at once or one after another. -/
theorem ofDelivery?_eq (d : Delivery) :
    LineSequence.ofDelivery? d = (ofDelivery? d).map all := by
  unfold LineSequence.ofDelivery? ofDelivery?
  obtain ⟨bytes, failure⟩ := d
  cases failure with
  | none => rfl
  | some reason =>
    have hbroken : Delivery.isBroken ⟨bytes, some reason⟩ = true := rfl
    simp only [hbroken, if_true]
    split
    · rfl
    · rfl

end LineStream

/-! ## Encoded lines -/

/--
**Encoded lines are read back.** Lines without line feeds and without a carriage return at their end
can be written with any terminators, in any form that tells its encoding. Then the stream of these
bytes gives each line once and counts it, has no more, and keeps no failure.
-/
theorem encoded_lines_read_back {e : Encoding} {bytes : List UInt8} (hl : IsWritten lines text)
    (hhead : text.head? ≠ some '\uFEFF') (hb : e.IsForm text bytes) :
    ∃ s, LineStream.ofDelivery? ⟨bytes, none⟩ = some s ∧ s.linesRead = 0 ∧ s.failure = none ∧
      s.ReadsOut (lines.map String.ofList) ∧
      LineSequence.ofDelivery? ⟨bytes, none⟩ = some ⟨lines.map String.ofList, false⟩ := by
  have hencoding : encodingOf bytes = e := Encoding.detect?_take (n := 256) (by decide) hhead hb
  have htext : textOf bytes = text := by
    rw [textOf, unmarked, hencoding, Encoding.dropMark_dropMark hhead hb, Encoding.decode_encode]
  have hs : LineStream.ofDelivery? ⟨bytes, none⟩ = some { text := textOf bytes, failure := none } :=
    rfl
  have hall :
      LineStream.all { text := text, failure := none } = ⟨lines.map String.ofList, false⟩ := by
    rw [← allLines_of_isWritten hl]
    rfl
  rw [LineStream.ofDelivery?_eq, hs, htext]
  refine ⟨_, rfl, rfl, rfl, ?_, congrArg some hall⟩
  have hr := LineStream.reads_all (s := { text := text, failure := none }) rfl rfl
  rw [hall] at hr
  exact hr

/-- A surrogate pair behind a mark, and a Latin letter without one. -/
theorem clef_and_accent_read_back :
    (∃ s, LineStream.ofDelivery?
        ⟨[0xFE, 0xFF, 0x00, 0x61, 0x00, 0x0D, 0x00, 0x0A, 0xD8, 0x34, 0xDD, 0x1E], none⟩ = some s ∧
      s.ReadsOut ["a", "𝄞"]) ∧
    ∃ s, LineStream.ofDelivery? ⟨[0xE9, 0x00, 0x0A, 0x00], none⟩ = some s ∧ s.ReadsOut ["é"] := by
  have hletter : IsLine ['a'] := ⟨by decide, by decide⟩
  have hclef : IsLine ['𝄞'] := ⟨by decide, by decide⟩
  have haccent : IsLine ['é'] := ⟨by decide, by decide⟩
  have hlatin : ∀ c ∈ ['é', '\n'], 1 ≤ c.toNat ∧ c.toNat ≤ 0xFF := by simp
  constructor
  · obtain ⟨s, hs, -, -, hr, -⟩ := encoded_lines_read_back (e := .utf16 .big)
      (.returnFeed hletter (.unterminated hclef (by decide))) (by decide) .marked
    exact ⟨s, hs, hr⟩
  · obtain ⟨s, hs, -, -, hr, -⟩ := encoded_lines_read_back (e := .utf16 .little)
      (.feed haccent .nil) (by decide) (.unmarked ⟨List.cons_ne_nil _ _, hlatin⟩)
    exact ⟨s, hs, hr⟩

end RemoteSearch.Transfer

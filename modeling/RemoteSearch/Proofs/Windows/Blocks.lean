import RemoteSearch.Platform
import RemoteSearch.Proofs.Text.Blank

/-!
# Blocks of lines

What is read from printed lines that arrive with blanks around them and with blank lines between
them, and how the lines of a block are gathered into fields.

* `Arrives` relates printed lines to the lines that arrive; reading one or the other comes to the
  same (`Arrives.readRecord`).
* `Takes` is the exchange of calls for one record each, with the lines that are left after them.
* `readBlock_append`: lines with a colon are put among the fields one after another.
-/

namespace RemoteSearch.Windows

open Text

variable {line received key value : String} {l sent arrived rest last : List String}
  {fields : Fields} {r : Except RecordError Metadata} {rs : List (Except RecordError Metadata)}

/-! ## Lines on their way -/

/-- Whether a line arrives for a printed one, with any blanks around it. -/
def IsPadded (line received : String) : Prop :=
  ∃ a b, IsEmptySpace a ∧ IsEmptySpace b ∧ received.toList = a ++ line.toList ++ b

/-- Whether a line holds nothing but blanks. -/
def IsBlankLine (line : String) : Prop := IsEmptySpace line.toList

instance (line : String) : Decidable (IsBlankLine line) :=
  inferInstanceAs (Decidable (IsEmptySpace _))

/-- Printed lines and what arrives: each line with any blanks around it, and blank lines anywhere. -/
inductive Arrives : List String → List String → Prop where
  | done : Arrives [] []
  | line {line received : String} {sent arrived : List String} (hp : IsPadded line received)
      (h : Arrives sent arrived) : Arrives (line :: sent) (received :: arrived)
  | blank {received : String} {sent arrived : List String} (hb : IsBlankLine received)
      (h : Arrives sent arrived) : Arrives sent (received :: arrived)

theorem trimmed_of_isPadded (h : IsPadded line received) : trimmed received = trimmed line := by
  obtain ⟨a, b, ha, hb, he⟩ := h
  rw [trimmed, he, trim_blanks ha hb, trimmed]

theorem trimmed_of_isBlankLine (h : IsBlankLine line) : trimmed line = "" := by
  rw [trimmed, trim_of_isEmptySpace h]

theorem Arrives.refl (l : List String) : Arrives l l := by
  induction l with
  | nil => exact .done
  | cons line l ih =>
    exact .line ⟨[], [], by simp [IsEmptySpace], by simp [IsEmptySpace], by simp⟩ ih

theorem Arrives.append {sent' arrived' : List String} (h : Arrives sent arrived)
    (h' : Arrives sent' arrived') : Arrives (sent ++ sent') (arrived ++ arrived') := by
  induction h with
  | done => exact h'
  | line hp _ ih => exact .line hp ih
  | blank hb _ ih => exact .blank hb ih

/-! ## Lines of a block -/

theorem readBlock_close (h : trimmed line = "\x7d") :
    readBlock fields (line :: l) = (ofFields fields, l) := by
  simp [readBlock, h]

theorem readBlock_blank (h : trimmed line = "") :
    readBlock fields (line :: l) = readBlock fields l := by
  simp [readBlock, h]

/-- A line that neither closes a block nor is blank. -/
def IsInner (line : String) : Prop := trimmed line ≠ "" ∧ trimmed line ≠ "\x7d"

instance (line : String) : Decidable (IsInner line) := inferInstanceAs (Decidable (_ ∧ _))

theorem readBlock_inner (h : IsInner line) :
    readBlock fields (line :: l) =
      match cut ":" (trimmed line) with
      | some (key, value) => readBlock (fields.put (trimmed key) (trimmed value)) l
      | none => (.error (.malformed (trimmed line) "expected 'Key: value'"), l) := by
  rw [readBlock]
  simp only [if_neg h.2]
  refine (if_neg (by simpa using h.1)).trans ?_
  cases cut ":" (trimmed line) <;> rfl

/-- The fields after a line with a colon. -/
def addLine (fields : Fields) (line : String) : Fields :=
  match cut ":" (trimmed line) with
  | some (key, value) => fields.put (trimmed key) (trimmed value)
  | none => fields

/-- The fields that the lines of a block make. -/
def fieldsOf (body : List String) : Fields := body.foldl addLine []

/-- Whether a line holds a colon. -/
def HasColon (line : String) : Prop := ':' ∈ line.toList

instance (line : String) : Decidable (HasColon line) := inferInstanceAs (Decidable (':' ∈ _))

/-- Trimming drops blanks only, and a colon is none. -/
theorem hasColon_trimmed : HasColon (trimmed line) ↔ HasColon line := by
  unfold HasColon trimmed
  rw [String.toList_ofList]
  -- both trims drop from a front, the one at the end from the front of the reversed text
  have hstart : ∀ l : List Char, ':' ∈ l.dropWhile isBlank ↔ ':' ∈ l := by
    intro l
    conv => rhs; rw [← List.takeWhile_append_dropWhile (p := isBlank) (l := l), List.mem_append]
    refine ⟨Or.inr, fun h => h.resolve_left fun hm => ?_⟩
    have hblank : isBlank ':' = true := List.all_eq_true.mp List.all_takeWhile ':' hm
    revert hblank
    decide
  rw [trim, trimEnd, dropEndWhile, List.mem_reverse, hstart, List.mem_reverse, trimStart, hstart]

theorem isSome_cut (line : String) : (cut ":" (trimmed line)).isSome ↔ HasColon line := by
  rw [← hasColon_trimmed, cut, Option.isSome_map]
  exact isSome_cutAt_singleton

theorem readBlock_field (hi : IsInner line) (hc : HasColon line) :
    readBlock fields (line :: l) = readBlock (addLine fields line) l := by
  obtain ⟨⟨key, value⟩, hcut⟩ := Option.isSome_iff_exists.mp ((isSome_cut line).mpr hc)
  rw [readBlock_inner hi, addLine, hcut]

theorem readBlock_stray (hi : IsInner line) (hc : ¬HasColon line) :
    readBlock fields (line :: l) =
      (.error (.malformed (trimmed line) "expected 'Key: value'"), l) := by
  have hcut : cut ":" (trimmed line) = none := by
    rw [← Option.not_isSome_iff_eq_none, isSome_cut]
    exact hc
  rw [readBlock_inner hi, hcut]

/-- **Lines with a colon are put among the fields one after another.** -/
theorem readBlock_append {body : List String} (h : ∀ line ∈ body, IsInner line ∧ HasColon line)
    (fields : Fields) (l : List String) :
    readBlock fields (body ++ l) = readBlock (body.foldl addLine fields) l := by
  induction body generalizing fields with
  | nil => rfl
  | cons line body ih =>
    obtain ⟨hi, hc⟩ := h line (by simp)
    rw [List.cons_append, readBlock_field hi hc, ih fun x hx => h x (by simp [hx]),
      List.foldl_cons]

/-! ## Records -/

theorem readRecord_blank (h : trimmed line = "") : readRecord (line :: l) = readRecord l := by
  simp [readRecord, h]

theorem readRecord_open (h : trimmed line = "\x7b") :
    readRecord (line :: l) = some (readBlock [] l) := by
  simp [readRecord, h]

theorem readRecord_outside (h₁ : trimmed line ≠ "") (h₂ : trimmed line ≠ "\x7b") :
    readRecord (line :: l) = some (.error (.malformed (trimmed line) "expected '\x7b'"), l) := by
  rw [readRecord]
  simp only [if_neg h₂]
  rw [if_neg (by simpa using h₁)]

/-- Only blank lines hold no record and no complaint about one. -/
theorem readRecord_eq_none_iff : readRecord l = none ↔ ∀ line ∈ l, trimmed line = "" := by
  induction l with
  | nil => simp [readRecord]
  | cons line l ih =>
    by_cases h : trimmed line = ""
    · simp [readRecord_blank h, ih, h]
    · by_cases ho : trimmed line = "\x7b"
      · simp [readRecord_open ho, h]
      · simp [readRecord_outside h ho, h]

/-- A block is read alike however its lines arrive. -/
theorem Arrives.readBlock (h : Arrives sent arrived) (fields : Fields) :
    (readBlock fields arrived).1 = (readBlock fields sent).1 ∧
      Arrives (readBlock fields sent).2 (readBlock fields arrived).2 := by
  induction h generalizing fields with
  | done => exact ⟨rfl, .done⟩
  | @blank received sent arrived hb h ih =>
    rw [readBlock_blank (trimmed_of_isBlankLine hb)]
    exact ih fields
  | @line line received sent arrived hp h ih =>
    have ht := trimmed_of_isPadded hp
    by_cases hblank : trimmed line = ""
    · rw [readBlock_blank (ht.trans hblank), readBlock_blank hblank]
      exact ih fields
    by_cases hclose : trimmed line = "\x7d"
    · rw [readBlock_close (ht.trans hclose), readBlock_close hclose]
      exact ⟨rfl, h⟩
    have hi : IsInner line := ⟨hblank, hclose⟩
    have hi' : IsInner received := by rwa [IsInner, ht]
    rw [readBlock_inner hi, readBlock_inner hi', ht]
    -- with a colon reading goes on with other fields, so the induction is over all of them
    cases cut ":" (trimmed line) with
    | none => exact ⟨rfl, h⟩
    | some p => exact ih _

/-- **A record is read alike however its lines arrive.** -/
theorem Arrives.readRecord (h : Arrives sent arrived) :
    (readRecord sent = none → readRecord arrived = none) ∧
      ∀ r rest, readRecord sent = some (r, rest) →
        ∃ rest', readRecord arrived = some (r, rest') ∧ Arrives rest rest' := by
  induction h with
  | done => exact ⟨id, fun r rest h => by simp [Windows.readRecord] at h⟩
  | @blank received sent arrived hb h ih =>
    rw [readRecord_blank (trimmed_of_isBlankLine hb)]
    exact ih
  | @line line received sent arrived hp h ih =>
    have ht := trimmed_of_isPadded hp
    by_cases hblank : trimmed line = ""
    · rw [readRecord_blank (ht.trans hblank), readRecord_blank hblank]
      exact ih
    by_cases hopen : trimmed line = "\x7b"
    · rw [readRecord_open (ht.trans hopen), readRecord_open hopen]
      refine ⟨by simp, fun r rest hr => ?_⟩
      obtain ⟨h₁, h₂⟩ := h.readBlock []
      rw [Option.some.inj hr] at h₁ h₂
      exact ⟨(Windows.readBlock [] arrived).2, congrArg some (Prod.ext h₁ rfl), h₂⟩
    · rw [readRecord_outside hblank hopen,
        readRecord_outside (by rwa [ht]) (by rwa [ht]), ht]
      refine ⟨by simp, fun r rest hr => ?_⟩
      obtain ⟨rfl, rfl⟩ := Prod.mk.inj (Option.some.inj hr)
      exact ⟨arrived, rfl, h⟩

/-! ## More lines -/

/-- More lines after those of a block change what it gives only if they break it off. -/
theorem readBlock_more (fields : Fields) (l more : List String) :
    readBlock fields (l ++ more) = ((readBlock fields l).1, (readBlock fields l).2 ++ more) ∨
      ∃ e, readBlock fields l = (.error e, []) := by
  induction l generalizing fields with
  | nil => exact Or.inr ⟨_, rfl⟩
  | cons line l ih =>
    rw [List.cons_append]
    by_cases hblank : trimmed line = ""
    · rw [readBlock_blank hblank, readBlock_blank hblank]
      exact ih fields
    by_cases hclose : trimmed line = "\x7d"
    · rw [readBlock_close hclose, readBlock_close hclose]
      exact Or.inl rfl
    by_cases hcolon : HasColon line
    · rw [readBlock_field ⟨hblank, hclose⟩ hcolon, readBlock_field ⟨hblank, hclose⟩ hcolon]
      exact ih _
    · rw [readBlock_stray ⟨hblank, hclose⟩ hcolon, readBlock_stray ⟨hblank, hclose⟩ hcolon]
      exact Or.inl rfl

theorem readRecord_more (h : readRecord l = some (r, rest)) (more : List String) :
    readRecord (l ++ more) = some (r, rest ++ more) ∨ ((∃ e, r = .error e) ∧ rest = []) := by
  induction l with
  | nil => cases h
  | cons line l ih =>
    rw [List.cons_append]
    by_cases hblank : trimmed line = ""
    · rw [readRecord_blank hblank] at h ⊢
      exact ih h
    by_cases hopen : trimmed line = "\x7b"
    · rw [readRecord_open hopen] at h ⊢
      have he := Option.some.inj h
      rcases readBlock_more [] l more with hb | ⟨e, hb⟩
      · exact Or.inl (by rw [hb, he])
      · obtain ⟨rfl, rfl⟩ := Prod.mk.inj (he.symm.trans hb)
        exact Or.inr ⟨⟨e, rfl⟩, rfl⟩
    · rw [readRecord_outside hblank hopen] at h ⊢
      obtain ⟨rfl, rfl⟩ := Prod.mk.inj (Option.some.inj h)
      exact Or.inl rfl

/-! ## Calls in turn -/

/-- The results of calls for one record each, and the lines that are left after them. -/
inductive Takes : List String → List (Except RecordError Metadata) → List String → Prop where
  | stop (l : List String) : Takes l [] l
  | next {l rest last : List String} {r : Except RecordError Metadata}
      {rs : List (Except RecordError Metadata)} (h : readRecord l = some (r, rest))
      (hr : Takes rest rs last) : Takes l (r :: rs) last

theorem Takes.append {mid : List String} {rs' : List (Except RecordError Metadata)}
    (h : Takes l rs mid) (h' : Takes mid rs' last) : Takes l (rs ++ rs') last := by
  induction h with
  | stop l => exact h'
  | next hr _ ih => exact .next hr (ih h')

/-- Calls give the same however the lines arrive. -/
theorem Takes.of_arrives (h : Takes sent rs last) (ha : Arrives sent arrived) :
    ∃ last', Takes arrived rs last' ∧ Arrives last last' := by
  induction h generalizing arrived with
  | stop l => exact ⟨arrived, .stop arrived, ha⟩
  | next hr _ ih =>
    obtain ⟨rest', hr', ha'⟩ := ha.readRecord.2 _ _ hr
    obtain ⟨last', ht, hl⟩ := ih ha'
    exact ⟨last', .next hr' ht, hl⟩

/-- The list of all records begins with the results of any calls. -/
theorem readRecords_of_takes {now : Calendar.Instant} (h : Takes l rs last) :
    Platform.windows.readRecords now l = rs ++ Platform.windows.readRecords now last := by
  induction h with
  | stop l => rfl
  | @next l rest last r rs hr _ ih =>
    rw [Platform.readRecords_of_some (p := .windows) hr, ih, List.cons_append]

theorem takes_readRecords (now : Calendar.Instant) (l : List String) :
    ∃ last, Takes l (Platform.windows.readRecords now l) last ∧ readRecord last = none := by
  generalize hp : Platform.windows = p
  fun_induction Platform.readRecords p now l with
  | case1 l h =>
    subst hp
    exact ⟨l, .stop l, h⟩
  | case2 l r rest h _ ih =>
    obtain ⟨last, ht, hn⟩ := ih
    subst hp
    exact ⟨last, .next h ht, hn⟩

/-- **All records are read alike however their lines arrive.** -/
theorem Arrives.readRecords (h : Arrives sent arrived) (now : Calendar.Instant) :
    Platform.windows.readRecords now arrived = Platform.windows.readRecords now sent := by
  obtain ⟨last, ht, hn⟩ := takes_readRecords now sent
  obtain ⟨last', ht', hl⟩ := ht.of_arrives h
  rw [readRecords_of_takes ht', Platform.readRecords_of_none (p := .windows) (hl.readRecord.1 hn),
    List.append_nil]

end RemoteSearch.Windows

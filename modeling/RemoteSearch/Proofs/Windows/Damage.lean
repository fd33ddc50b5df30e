import RemoteSearch.Proofs.Windows.Blocks
import RemoteSearch.Searcher.Findings

/-!
# Damaged blocks

What is found in a stream of blocks of which some are damaged: have lost their closing brace, hold
a line without a colon, or have values that cannot be decoded.

Reading takes a block up to the first line without a colon, and what follows that line is read as if
it stood outside of all blocks. So damage stays in its block exactly if nothing of the block follows
such a line (`Block.IsContained`):

* `takes_contained`: a block with contained damage, or with none, costs one result;
* `takes_stray`: otherwise each line of the block after the first without a colon costs one more;
* `takes_unclosed`: a block that has only lost its brace costs the whole next block.
-/

namespace RemoteSearch.Windows

open Text Searcher

variable {fields : Fields} {l : List String}

/-! ## Blocks -/

/-- A block as it is sent, without blank lines: what stands between its braces. -/
structure Block where
  body : List String
  /-- Whether there is a closing brace. -/
  isClosed : Bool := true
  isInner : ∀ line ∈ body, IsInner line ∧ trimmed line ≠ "\x7b" := by decide

namespace Block

/-- The closing brace, if there is one. -/
def closing (b : Block) : List String := if b.isClosed then ["\x7d"] else []

/-- The lines of a block. -/
def lines (b : Block) : List String := "\x7b" :: (b.body ++ b.closing)

/-- Whether all lines of a block have a colon. -/
def HasColons (b : Block) : Prop := ∀ line ∈ b.body, HasColon line

instance (b : Block) : Decidable b.HasColons := List.decidableBAll HasColon b.body

/-- The record of a block, none if it is damaged. -/
def record? (b : Block) : Option Metadata :=
  if b.isClosed ∧ b.HasColons then (ofFields (fieldsOf b.body)).toOption else none

end Block

/-! ## Damage -/

/-- What makes fields undecodable. -/
inductive IsUndecodable (fields : Fields) : Prop where
  | path (h : (fields.get? "Path").bind decodeText = none)
  | target {text : String} (h : fields.get? "LinkTarget" = some text)
      (hd : decodeText text = none)
  /-- Only a link needs no type. -/
  | type (h : fields.get? "LinkTarget" = none)
      (hk : kindOf? ((fields.get? "Type").getD "") = none)
  | length {text : String} (h : fields.get? "Length" = some text) (hn : nat64? text = none)

section Fields

variable {α β : Type} {path : String} {target : Option String} {kind : FileType}

theorem toOption_bind (x : Except RecordError α) (f : α → Except RecordError β) :
    (x >>= f).toOption = x.toOption.bind fun a => (f a).toOption := by
  cases x <;> rfl

theorem toOption_orMalformed (o : Option α) (text reason : String) :
    (orMalformed o text reason).toOption = o := by
  cases o <;> rfl

theorem toOption_targetOf : (targetOf fields).toOption =
    match fields.get? "LinkTarget" with
    | some text => (decodeText text).map some
    | none => some none := by
  unfold targetOf
  cases fields.get? "LinkTarget" with
  | none => rfl
  | some text => cases h : decodeText text <;> simp [h, orMalformed, Except.toOption, Except.map]

theorem toOption_typeOf : (typeOf fields target).toOption =
    if target.isSome then some .link else kindOf? ((fields.get? "Type").getD "") := by
  unfold typeOf
  split
  · rfl
  · exact toOption_orMalformed _ _ _

theorem toOption_lengthOf : (lengthOf fields).toOption =
    match fields.get? "Length" with
    | some text => nat64? text
    | none => some 0 := by
  unfold lengthOf
  cases fields.get? "Length" with
  | none => rfl
  | some text => exact toOption_orMalformed _ _ _

/-- A kind that fits the target makes a record. -/
theorem exists_make? (path : String) (h : (typeOf fields target).toOption = some kind) :
    ∃ m, Metadata.make? kind path target '\\' = .ok m := by
  rw [toOption_typeOf] at h
  cases target with
  | some t =>
    obtain rfl : FileType.link = kind := Option.some.inj h
    exact ⟨_, rfl⟩
  | none =>
    simp only [Option.isSome_none, Bool.false_eq_true, if_false, kindOf?] at h
    split at h
    · obtain rfl : FileType.file = kind := Option.some.inj h
      exact ⟨_, rfl⟩
    · obtain rfl : FileType.directory = kind := Option.some.inj h
      exact ⟨_, rfl⟩
    · cases h

/-- Fields that make no record hold a value that cannot be decoded. -/
theorem isUndecodable_of_ofFields (h : (ofFields fields).toOption = none) :
    IsUndecodable fields := by
  simp only [ofFields, toOption_bind, toOption_orMalformed] at h
  -- the values are decoded one after another, and the first that cannot be is the kind of damage
  cases he : fields.get? "Path" with
  | none => exact .path (by rw [he]; rfl)
  | some encoded =>
  cases hd : decodeText encoded with
  | none => exact .path (by rw [he]; exact hd)
  | some path =>
  cases ht : (targetOf fields).toOption with
  | none =>
    rw [toOption_targetOf] at ht
    split at ht
    · next text htext => exact .target htext (Option.map_eq_none_iff.mp ht)
    · cases ht
  | some target =>
  cases hk : (typeOf fields target).toOption with
  | none =>
    have htarget : target = none := by
      cases target with
      | none => rfl
      | some t => simp [toOption_typeOf] at hk
    subst htarget
    rw [toOption_targetOf] at ht
    split at ht
    · simp at ht
    · next hnone => exact .type hnone (by simpa [toOption_typeOf] using hk)
  | some kind =>
  cases hl : (lengthOf fields).toOption with
  | none =>
    rw [toOption_lengthOf] at hl
    split at hl
    · next text htext => exact .length htext hl
    · cases hl
  | some size =>
    -- all values can be decoded, so there is a record
    obtain ⟨m, hm⟩ := exists_make? path hk
    have hm' : (Metadata.make? kind path target '\\').toOption = some m := by rw [hm]; rfl
    simp [he, hd, ht, hk, hl, hm'] at h
    cases h

/-- A value that cannot be decoded keeps fields from making a record. -/
theorem IsUndecodable.ofFields (h : IsUndecodable fields) : (ofFields fields).toOption = none := by
  simp only [Windows.ofFields, toOption_bind, toOption_orMalformed]
  cases h with
  | path h =>
    cases he : fields.get? "Path" with
    | none => rfl
    | some encoded =>
      rw [he] at h
      have hd : decodeText encoded = none := h
      simp [hd]
  | target h hd =>
    have ht : (targetOf fields).toOption = none := by simp [toOption_targetOf, h, hd]
    simp [ht]
  | type h hk =>
    have ht : (targetOf fields).toOption = some none := by simp [toOption_targetOf, h]
    have hk' : (typeOf fields none).toOption = none := by simp [toOption_typeOf, hk]
    simp [ht, hk']
  | length h hn =>
    have hl : (lengthOf fields).toOption = none := by simp [toOption_lengthOf, h, hn]
    simp [hl]

end Fields

/-- What makes a block damaged. -/
inductive Block.IsDamaged (b : Block) : Prop where
  | unclosed (h : b.isClosed = false)
  | stray {line : String} (hl : line ∈ b.body) (h : ¬HasColon line)
  | undecodable (h : IsUndecodable (fieldsOf b.body))

/-- **A block has no record exactly if it is damaged.** -/
theorem Block.record?_eq_none_iff {b : Block} : b.record? = none ↔ b.IsDamaged := by
  unfold record?
  constructor
  · intro h
    by_cases hc : b.isClosed = true
    · by_cases hh : b.HasColons
      · rw [if_pos ⟨hc, hh⟩] at h
        exact .undecodable (isUndecodable_of_ofFields h)
      · simp only [HasColons, Classical.not_forall] at hh
        obtain ⟨line, hl, hs⟩ := hh
        exact .stray hl hs
    · exact .unclosed (by simpa using hc)
  · intro h
    split
    · next hb =>
      cases h with
      | unclosed h => simp [h] at hb
      | stray hl h => exact absurd (hb.2 _ hl) h
      | undecodable h => exact h.ofFields
    · rfl

/-- Damage that stays in its block: nothing of the block comes after a line without a colon. -/
inductive Block.IsContained (b : Block) : Prop where
  | values (hc : b.isClosed = true) (h : b.HasColons)
  | lastLine {init : List String} {line : String} (ho : b.isClosed = false)
      (hb : b.body = init ++ [line]) (h : ∀ x ∈ init, HasColon x) (hs : ¬HasColon line)

/-- Without damage there is none that could leave the block. -/
theorem Block.isContained_of_not_isDamaged {b : Block} (h : ¬b.IsDamaged) : b.IsContained := by
  have hsome : b.record? ≠ none := fun hn => h (b.record?_eq_none_iff.mp hn)
  unfold record? at hsome
  split at hsome
  · next hb => exact .values hb.1 hb.2
  · exact absurd rfl hsome

/-- A block that the end of the stream cuts off between two lines. -/
def Block.IsCutOff (b : Block) : Prop := b.isClosed = false ∧ b.HasColons

/-! ## What blocks cost -/

section Costs

variable {b c : Block} {init more : List String} {line : String}

/-- Whether a result is a complaint. -/
def IsComplaint (r : Except RecordError Metadata) : Prop := r.toOption = none

theorem trimmed_open : trimmed "\x7b" = "\x7b" := by decide

theorem trimmed_close : trimmed "\x7d" = "\x7d" := by decide

theorem Block.readRecord_lines (b : Block) (l : List String) :
    readRecord (b.lines ++ l) = some (readBlock [] (b.body ++ (b.closing ++ l))) := by
  rw [lines, List.cons_append, readRecord_open trimmed_open, List.append_assoc]

theorem Block.inner_of_mem (hl : line ∈ b.body) : Windows.IsInner line := (b.isInner line hl).1

/-- Reading a block whose lines all have a colon goes on after them. -/
theorem Block.readRecord_of_hasColons (h : b.HasColons) (l : List String) :
    readRecord (b.lines ++ l) = some (readBlock (fieldsOf b.body) (b.closing ++ l)) := by
  rw [b.readRecord_lines, readBlock_append fun x hx => ⟨b.inner_of_mem hx, h x hx⟩, fieldsOf]

/-- Reading a block stops at its first line without a colon. -/
theorem Block.readRecord_of_stray (hb : b.body = init ++ line :: more) (h : ∀ x ∈ init, HasColon x)
    (hs : ¬HasColon line) (l : List String) :
    readRecord (b.lines ++ l) =
      some (.error (.malformed (trimmed line) "expected 'Key: value'"),
        more ++ (b.closing ++ l)) := by
  have hi : ∀ x ∈ init ++ line :: more, Windows.IsInner x := fun x hx => b.inner_of_mem (hb ▸ hx)
  rw [b.readRecord_lines, hb, List.append_assoc,
    readBlock_append fun x hx => ⟨hi x (by simp [hx]), h x hx⟩, List.cons_append,
    readBlock_stray (hi line (by simp)) hs]

/-- Lines outside of blocks cost a complaint each. -/
theorem takes_outside {outside : List String}
    (h : ∀ line ∈ outside, trimmed line ≠ "" ∧ trimmed line ≠ "\x7b") (l : List String) :
    ∃ rs, Takes (outside ++ l) rs l ∧ rs.length = outside.length ∧ ∀ r ∈ rs, IsComplaint r := by
  induction outside with
  | nil => exact ⟨[], .stop l, rfl, by simp⟩
  | cons line outside ih =>
    obtain ⟨rs, ht, hlen, hall⟩ := ih fun x hx => h x (by simp [hx])
    obtain ⟨h₁, h₂⟩ := h line (by simp)
    refine ⟨_ :: rs, .next (readRecord_outside h₁ h₂) ht, by simp [hlen], ?_⟩
    exact List.forall_mem_cons.mpr ⟨rfl, hall⟩

/-- The last lines of a block stand outside of blocks once its brace does not count any more. -/
theorem Block.outside_of_suffix (hb : b.body = init ++ more) :
    ∀ line ∈ more ++ b.closing, trimmed line ≠ "" ∧ trimmed line ≠ "\x7b" := by
  intro line hl
  rcases List.mem_append.mp hl with hm | hm
  · have hbody : line ∈ b.body := by simp [hb, hm]
    exact ⟨(b.inner_of_mem hbody).1, (b.isInner line hbody).2⟩
  · have hbrace : line = "\x7d" := by
      unfold closing at hm
      split at hm
      · simpa using hm
      · simp at hm
    subst hbrace
    exact ⟨by decide, by decide⟩

/--
**A line without a colon costs itself and each line of the block after it**, but nothing of what
comes after the block.
-/
theorem takes_stray (hb : b.body = init ++ line :: more) (h : ∀ x ∈ init, HasColon x)
    (hs : ¬HasColon line) (l : List String) :
    ∃ rs, Takes (b.lines ++ l) rs l ∧ rs.length = more.length + b.closing.length + 1 ∧
      ∀ r ∈ rs, IsComplaint r := by
  have hb' : b.body = (init ++ [line]) ++ more := by simp [hb]
  obtain ⟨rs, ht, hlen, hall⟩ := takes_outside (b.outside_of_suffix hb') l
  rw [List.append_assoc] at ht
  refine ⟨_ :: rs, .next (b.readRecord_of_stray hb h hs l) ht, by simp [hlen], ?_⟩
  exact List.forall_mem_cons.mpr ⟨rfl, hall⟩

/--
**A block that has lost no more than its brace costs itself and the whole next block**: that block's
opening brace is a line without a colon, and each of its lines after it stands outside of blocks.
-/
theorem takes_unclosed (ho : b.isClosed = false) (h : b.HasColons) (c : Block) (l : List String) :
    ∃ rs, Takes (b.lines ++ (c.lines ++ l)) rs l ∧ rs.length = c.lines.length ∧
      ∀ r ∈ rs, IsComplaint r := by
  have hopen : readRecord (b.lines ++ (c.lines ++ l)) =
      some (.error (.malformed "\x7b" "expected 'Key: value'"), c.body ++ c.closing ++ l) := by
    rw [b.readRecord_of_hasColons h, Block.closing, ho, Block.lines, List.cons_append]
    simp only [Bool.false_eq_true, if_false, List.nil_append]
    rw [readBlock_stray ⟨by decide, by decide⟩ (by decide), trimmed_open]
  obtain ⟨rs, ht, hlen, hall⟩ := takes_outside (c.outside_of_suffix (List.nil_append c.body).symm) l
  refine ⟨_ :: rs, .next hopen ht, by simp [Block.lines, hlen], ?_⟩
  exact List.forall_mem_cons.mpr ⟨rfl, hall⟩

/-- **A block that the end of the stream cuts off costs a complaint.** -/
theorem takes_cutOff (h : b.IsCutOff) :
    ∃ r, Takes b.lines [r] [] ∧ r.toOption = b.record? := by
  have hread := b.readRecord_of_hasColons h.2 []
  rw [Block.closing, h.1, List.append_nil] at hread
  exact ⟨_, .next hread (.stop []), by simp [Block.record?, h.1, Except.toOption]⟩

/-- **Contained damage costs the record of its block and no more.** -/
theorem takes_contained (h : b.IsContained) (l : List String) :
    ∃ r, Takes (b.lines ++ l) [r] l ∧ r.toOption = b.record? := by
  cases h with
  | values hc h =>
    have hread := b.readRecord_of_hasColons h l
    rw [Block.closing, hc, if_pos rfl, List.singleton_append,
      readBlock_close trimmed_close] at hread
    exact ⟨_, .next hread (.stop l), by simp [Block.record?, hc, h]⟩
  | lastLine ho hb h hs =>
    have hread := b.readRecord_of_stray hb h hs l
    rw [Block.closing, ho] at hread
    exact ⟨_, .next hread (.stop l), by simp [Block.record?, ho, Except.toOption]⟩

end Costs

/-! ## What is found in a stream -/

/-- What a stream of blocks should come to: the records of its blocks, and a count of the others. -/
def IsCounted (blocks : List Block) (arrived : List String) : Prop :=
  ∀ now failed, let f := Findings.ofLines .windows now ⟨arrived, failed⟩
    f.records = blocks.filterMap Block.record? ∧
      f.skipped = blocks.countP fun b => b.record?.isNone

/-- Blocks with contained damage cost the records of them and no more. -/
theorem takes_blocks {blocks : List Block} (h : ∀ b ∈ blocks, b.IsContained) (l : List String) :
    ∃ rs, Takes (blocks.flatMap Block.lines ++ l) rs l ∧
      rs.map Except.toOption = blocks.map Block.record? := by
  induction blocks with
  | nil => exact ⟨[], .stop l, rfl⟩
  | cons b blocks ih =>
    obtain ⟨rs, ht, hrs⟩ := ih fun x hx => h x (by simp [hx])
    obtain ⟨r, hr, hb⟩ := takes_contained (h b (by simp)) (blocks.flatMap Block.lines ++ l)
    refine ⟨r :: rs, ?_, by simp [hrs, hb]⟩
    rw [List.flatMap_cons, List.append_assoc]
    exact hr.append ht

/-- What is found, from the results of calls. -/
theorem findings_of_takes {blocks : List Block} {arrived : List String}
    {rs : List (Except RecordError Metadata)} (ha : Arrives (blocks.flatMap Block.lines) arrived)
    (ht : Takes (blocks.flatMap Block.lines) rs []) (now : Calendar.Instant) (failed : Bool) :
    let f := Findings.ofLines .windows now ⟨arrived, failed⟩
    f.records = rs.filterMap Except.toOption ∧
      f.skipped = rs.countP fun r => r.toOption.isNone := by
  have hread : Platform.windows.readRecords now arrived = rs := by
    rw [ha.readRecords, readRecords_of_takes ht, Platform.readRecords_of_none (p := .windows) rfl,
      List.append_nil]
  simp only [Findings.ofLines, hread, and_self]

/-- Results that are the records of blocks count the blocks. -/
theorem isCounted_of_takes {blocks : List Block} {arrived : List String}
    {rs : List (Except RecordError Metadata)} (ha : Arrives (blocks.flatMap Block.lines) arrived)
    (ht : Takes (blocks.flatMap Block.lines) rs [])
    (hrs : rs.map Except.toOption = blocks.map Block.record?) : IsCounted blocks arrived := by
  intro now failed
  obtain ⟨hrecords, hskipped⟩ := findings_of_takes ha ht now failed
  constructor
  · calc (Findings.ofLines .windows now ⟨arrived, failed⟩).records
        = (rs.map Except.toOption).filterMap id := by rw [hrecords, List.filterMap_map]; rfl
      _ = blocks.filterMap Block.record? := by rw [hrs, List.filterMap_map]; rfl
  · calc (Findings.ofLines .windows now ⟨arrived, failed⟩).skipped
        = (rs.map Except.toOption).countP Option.isNone := by rw [hskipped, List.countP_map]; rfl
      _ = blocks.countP fun b => b.record?.isNone := by rw [hrs, List.countP_map]; rfl

/-- Contained damage costs itself, and so does a last block that the end of the stream cuts off. -/
theorem isCounted_of_contained {blocks : List Block} {last : Option Block} {arrived : List String}
    (h : ∀ b ∈ blocks, b.IsContained) (hlast : ∀ b ∈ last, b.IsCutOff)
    (ha : Arrives ((blocks ++ last.toList).flatMap Block.lines) arrived) :
    IsCounted (blocks ++ last.toList) arrived := by
  cases last with
  | none =>
    obtain ⟨rs, ht, hrs⟩ := takes_blocks h []
    simp only [Option.toList_none, List.append_nil] at ha ht ⊢
    exact isCounted_of_takes ha ht hrs
  | some b =>
    obtain ⟨rs, ht, hrs⟩ := takes_blocks h b.lines
    obtain ⟨r, hr, hb⟩ := takes_cutOff (hlast b rfl)
    have htakes : Takes ((blocks ++ (some b).toList).flatMap Block.lines) (rs ++ [r]) [] := by
      simpa using ht.append hr
    exact isCounted_of_takes ha htakes (by simp [hrs, hb])

/-! ## Which damage costs itself -/

/-- A block about which nothing is to be said. -/
def soundBlock : Block := { body := ["Type: File", "Path: QzpceA=="] }

theorem isContained_soundBlock : soundBlock.IsContained := .values rfl (by decide)

theorem not_isDamaged_soundBlock : ¬soundBlock.IsDamaged := by
  rw [← Block.record?_eq_none_iff]
  decide

/-- Of lines that do not all have a colon there is a first one without. -/
theorem exists_first_stray {body : List String} (h : ¬∀ line ∈ body, HasColon line) :
    ∃ init line more, body = init ++ line :: more ∧ (∀ x ∈ init, HasColon x) ∧ ¬HasColon line := by
  induction body with
  | nil => exact absurd (by simp) h
  | cons line body ih =>
    by_cases hc : HasColon line
    · have htail : ¬∀ line ∈ body, HasColon line := fun hall =>
        h (List.forall_mem_cons.mpr ⟨hc, hall⟩)
      obtain ⟨init, stray, more, rfl, hinit, hs⟩ := ih htail
      exact ⟨line :: init, stray, more, rfl, List.forall_mem_cons.mpr ⟨hc, hinit⟩, hs⟩
    · exact ⟨[], line, body, rfl, by simp, hc⟩

/-- Damage that is not contained costs more than itself when a sound block comes next. -/
theorem not_isCounted_of_not_contained {b : Block} (hd : b.IsDamaged) (hc : ¬b.IsContained) :
    ¬IsCounted [b, soundBlock] ([b, soundBlock].flatMap Block.lines) := by
  intro h
  have hb : b.record? = none := Block.record?_eq_none_iff.mpr hd
  obtain ⟨m, hm⟩ : ∃ m, soundBlock.record? = some m :=
    Option.ne_none_iff_exists'.mp fun hn =>
      not_isDamaged_soundBlock (Block.record?_eq_none_iff.mp hn)
  have hlines : [b, soundBlock].flatMap Block.lines = b.lines ++ soundBlock.lines := by simp
  obtain ⟨hrecords, hskipped⟩ := h default false
  simp only [List.filterMap_cons, hb, hm, List.filterMap_nil] at hrecords
  simp only [List.countP_cons, hb, hm, List.countP_nil, Option.isNone_none,
    Option.isNone_some] at hskipped
  by_cases hh : b.HasColons
  · -- the sound block is lost
    have ho : b.isClosed = false := by
      cases hcl : b.isClosed with
      | false => rfl
      | true => exact absurd (.values hcl hh) hc
    obtain ⟨rs, ht, -, hall⟩ := takes_unclosed ho hh soundBlock []
    rw [List.append_nil, ← hlines] at ht
    have hnone : rs.filterMap Except.toOption = [] := List.filterMap_eq_nil_iff.mpr hall
    rw [(findings_of_takes (.refl _) ht default false).1, hnone] at hrecords
    cases hrecords
  · -- there is more than one complaint about the damaged block
    obtain ⟨init, line, more, hbody, hinit, hs⟩ := exists_first_stray hh
    obtain ⟨rs, ht, hlen, hall⟩ := takes_stray hbody hinit hs soundBlock.lines
    obtain ⟨r, hr, hsound⟩ := takes_contained isContained_soundBlock []
    rw [List.append_nil] at hr
    have hall' : ∀ r ∈ rs, r.toOption.isNone := fun r hr => by rw [hall r hr]; rfl
    rw [(findings_of_takes (.refl _) (hlines ▸ ht.append hr) default false).2, List.countP_append,
      List.countP_eq_length.mpr hall', hlen] at hskipped
    have hpos : 0 < more.length + b.closing.length := by
      cases ho : b.isClosed with
      | true => simp [Block.closing, ho]
      | false =>
        cases more with
        | nil => exact absurd (.lastLine ho hbody hinit hs) hc
        | cons x more =>
          rw [List.length_cons]
          omega
    rw [if_neg Bool.false_ne_true, if_pos trivial] at hskipped
    omega

/--
**Which damage costs exactly itself.** Take any kinds of damaged blocks. In every stream of blocks in
which only such blocks are damaged, but for a last one that the end of the stream may have cut off
between two lines, the records of all other blocks are found, in order, and one complaint is counted
for each damaged block, however the lines arrive: this holds exactly if all damage of these kinds is
contained in its block.
-/
theorem damage_costs_itself_iff (kinds : Block → Prop) :
    (∀ (blocks : List Block) (last : Option Block) (arrived : List String),
        (∀ b ∈ blocks, b.IsDamaged → kinds b) → (∀ b ∈ last, b.IsCutOff) →
        Arrives ((blocks ++ last.toList).flatMap Block.lines) arrived →
        IsCounted (blocks ++ last.toList) arrived) ↔
      ∀ b, kinds b → b.IsDamaged → b.IsContained := by
  constructor
  · intro h b hk hd
    refine Classical.byContradiction fun hc => not_isCounted_of_not_contained hd hc ?_
    have := h [b, soundBlock] none _ ?_ (by simp) (.refl _)
    · simpa using this
    · intro x hx hxd
      simp only [List.mem_cons, List.not_mem_nil, or_false] at hx
      rcases hx with rfl | rfl
      · exact hk
      · exact absurd hxd not_isDamaged_soundBlock
  · intro h blocks last arrived hblocks hlast ha
    refine isCounted_of_contained (fun b hb => ?_) hlast ha
    by_cases hd : b.IsDamaged
    · exact h b (hblocks b hb hd) hd
    · exact Block.isContained_of_not_isDamaged hd

/-- A block whose path is no Base64 costs itself. -/
theorem undecodable_path_costs_itself :
    let bad : Block := { body := ["Type: File", "Path: ?"] }
    bad.IsDamaged ∧ IsCounted [bad, soundBlock] ([bad, soundBlock].flatMap Block.lines) := by
  intro bad
  have hd : bad.IsDamaged := Block.record?_eq_none_iff.mp (by decide)
  refine ⟨hd, ?_⟩
  have hcontained : ∀ b, b = bad → b.IsDamaged → b.IsContained := by
    rintro b rfl -
    exact .values rfl (by decide)
  refine (damage_costs_itself_iff (· = bad)).mpr hcontained [bad, soundBlock] none _ ?_ (by simp)
    (.refl _)
  intro b hb hbd
  simp only [List.mem_cons, List.not_mem_nil, or_false] at hb
  rcases hb with rfl | rfl
  · rfl
  · exact absurd hbd not_isDamaged_soundBlock

/-- **A block that has lost its brace costs the sound block after it**, and a complaint a line. -/
theorem lost_brace_costs_next_block :
    let lost : Block := { body := ["Type: File", "Path: QzpcNw=="], isClosed := false }
    let found := Findings.ofLines .windows ⟨0, 0⟩ ⟨[lost, soundBlock].flatMap Block.lines, false⟩
    lost.IsDamaged ∧ ¬soundBlock.IsDamaged ∧ found.records = [] ∧ found.skipped = 4 ∧
      ¬IsCounted [lost, soundBlock] ([lost, soundBlock].flatMap Block.lines) := by
  intro lost found
  have hrecords : found.records = [] := by decide +kernel
  have hskipped : found.skipped = 4 := by decide +kernel
  refine ⟨.unclosed rfl, not_isDamaged_soundBlock, hrecords, hskipped, fun h => ?_⟩
  have hcount : [lost, soundBlock].countP (fun b => b.record?.isNone) = 1 := by decide
  have := (h ⟨0, 0⟩ false).2
  rw [hcount] at this
  exact absurd (hskipped.symm.trans this) (by decide)

end RemoteSearch.Windows

import Mathlib.Algebra.Group.Nat.Defs
import Mathlib.Data.List.Forall2
import RemoteSearch.Proofs.Text.Base64
import RemoteSearch.Proofs.Windows.Blocks

/-!
# Items and their records

The lines by which an item is printed, and the record that is read back from them.

* `Item.lines` is the layout in which the helper prints an item.
* `Item.Shows` says what the record of an item has to tell: everything that was printed, with times
  exact to 100 ns.
* `takes_items`: items printed one after another are read back one after another, whatever blanks
  and blank lines come between.
-/

namespace RemoteSearch.Windows

open Text Calendar

/-! ## Printing -/

/-- An item as the helper sees it; times are counts of 100 ns since the start of 1601. -/
structure Item where
  path : String
  isDirectory : Bool := false
  created : Nat := 0
  modified : Nat := 0
  accessed : Nat := 0
  length : Nat := 0
  attributes : Int := 0
  target : Option String := none
  created_lt : created < 2 ^ 63 := by decide
  modified_lt : modified < 2 ^ 63 := by decide
  accessed_lt : accessed < 2 ^ 63 := by decide
  length_lt : length < 2 ^ 64 := by decide

/-- A text as it is sent. -/
def encodeText (s : String) : String := String.ofList (Base64.encode (Utf8.encode s.toList))

namespace Item

/-- The kind that is printed, which says nothing of links. -/
def kind (i : Item) : FileType := if i.isDirectory then .directory else .file

/-- The printed name of a kind. -/
def kindName (i : Item) : String := if i.isDirectory then "Directory" else "File"

/-- The keys and values that are printed. -/
def entries (i : Item) : List (String × String) :=
  [("Type", i.kindName), ("Path", encodeText i.path), ("Ctime", toString i.created),
    ("Mtime", toString i.modified), ("Atime", toString i.accessed), ("Length", toString i.length),
    ("Attributes", toString i.attributes)] ++
  match i.target with
  | some t => [("LinkTarget", encodeText t)]
  | none => []

/-- The line for a key and a value. -/
def entryLine (entry : String × String) : String := entry.1 ++ ": " ++ entry.2

/-- The lines by which an item is printed. -/
def lines (i : Item) : List String := "\x7b" :: (i.entries.map entryLine ++ ["\x7d"])

end Item

/-- The nanoseconds from the start of 1601 to an instant. -/
def nanosSince1601 (t : Instant) : Int := (t.secs - 86400 * startOfYear 1601) * 1000000000 + t.nanos

/-- Whether a time is the one of a tick count: none for no ticks, else exactly as many. -/
inductive IsTime (ticks : Nat) : Option Instant → Prop where
  | unknown (h : ticks = 0) : IsTime ticks none
  | known {t : Instant} (h : ticks ≠ 0) (hlt : t.nanos < 1000000000)
      (hcount : nanosSince1601 t = 100 * ticks) : IsTime ticks (some t)

/-- Whether a record tells of an item what was printed of it. -/
structure Item.Shows (i : Item) (m : Metadata) : Prop where
  path : m.path = i.path
  size : m.size = i.length
  /-- A target makes a link of anything. -/
  fileType : m.fileType = if i.target.isSome then .link else i.kind
  linkTarget : m.linkTarget = i.target
  canonicalPath : m.canonicalPath = i.target.elim i.path (Path.resolve i.path · '\\')
  created : IsTime i.created m.created
  modified : IsTime i.modified m.modified
  accessed : IsTime i.accessed m.accessed
  attributes : m.extended = [("attributes", toString i.attributes)]
  unix : m.unix = none

/-! ## Values -/

section Values

variable {n : Nat}

theorem toList_toString (n : Nat) : (toString n).toList = digitsOf n := by
  rw [Nat.toString_eq_ofList_toDigits, String.toList_ofList, digitsOf]

theorem isSolid_toString (n : Nat) : IsSolid (toString n).toList := by
  rw [toList_toString]
  exact isSolid_digitsOf n

theorem isSolid_toString_int (n : Int) : IsSolid (toString n).toList := by
  cases n with
  | ofNat n => exact isSolid_toString n
  | negSucc n =>
    have h : (toString (Int.negSucc n)).toList = '-' :: (toString (n + 1)).toList := by
      show ("-" ++ toString (n + 1)).toList = _
      rw [String.toList_append]
      rfl
    rw [h]
    exact List.forall_mem_cons.mpr ⟨by decide, isSolid_toString (n + 1)⟩

theorem isSolid_encodeText (s : String) : IsSolid (encodeText s).toList := by
  rw [encodeText, String.toList_ofList]
  exact Base64.isSolid_encode _

/-- **A text comes back as it was sent.** -/
theorem decodeText_encodeText (s : String) : decodeText (encodeText s) = some s := by
  rw [decodeText, trim_of_isSolid (isSolid_encodeText s), encodeText, String.toList_ofList,
    Base64.decode_encode]
  simp [Utf8.decode?_encode]

theorem nat64?_toString (h : n < 2 ^ 64) : nat64? (toString n) = some n := by
  rw [nat64?, toList_toString]
  exact readNat_digitsOf h

theorem trimmed_of_isSolid {s : String} (h : IsSolid s.toList) : trimmed s = s := by
  rw [trimmed, trim_of_isSolid h, String.ofList_toList]

/-- **A tick count comes back as the instant that it counts up to.** -/
theorem isTime_instantOfTicks (h : n < 2 ^ 63) : IsTime n (instantOfTicks (toString n)) := by
  have hread : int64? (toString n) = some (n : Int) := by
    rw [int64?, toList_toString]
    exact readInt_digitsOf h
  rw [instantOfTicks, trimmed_of_isSolid (isSolid_toString n), hread]
  simp only [Option.bind_eq_bind, Option.bind_some]
  by_cases hn : n = 0
  · rw [if_neg (by omega)]
    exact .unknown hn
  · rw [if_pos (by omega)]
    refine .known hn ?_ ?_
    · show ((n : Int) % 10000000).toNat * 100 < 1000000000
      omega
    · -- before 1970 the seconds are negative and rounded down, so the rest still counts up
      have hstart : startOfYear 1601 = -134774 := by decide
      simp only [nanosSince1601, hstart, epochOffset]
      omega

end Values

/-! ## Lines -/

section Lines

variable {key value : String}

/-- What is trimmed off a value at the end of a line is trimmed off the value. -/
theorem trim_trimEnd_value {v : List Char} (h : IsSolid v) : trim (trimEnd (' ' :: v)) = v := by
  cases v with
  | nil => rfl
  | cons c r =>
    have hr : IsSolid r := fun d hd => h d (by simp [hd])
    have hend : trimEnd ([' '] ++ c :: r) = ' ' :: c :: r := by
      rw [trimEnd_append_cons (h c (by simp)), trimEnd_of_isSolid hr]
      rfl
    rw [List.singleton_append] at hend
    rw [hend, trim_blank_cons (by decide), trim_of_isSolid h]

/-- A printed line puts its value under its key. -/
theorem addLine_entryLine {fields : Fields} (hk : IsSolid key.toList) (hne : key ≠ "")
    (hc : ¬HasColon key) (hv : IsSolid value.toList) :
    addLine fields (Item.entryLine (key, value)) = fields.put key value := by
  have hline : (Item.entryLine (key, value)).toList =
      key.toList ++ ':' :: (' ' :: value.toList) := by
    simp [Item.entryLine]
  -- what is trimmed at the end may begin right after the colon, if the value is empty
  have htrim : trim (Item.entryLine (key, value)).toList =
      key.toList ++ ':' :: trimEnd (' ' :: value.toList) := by
    obtain ⟨c, r, hcr⟩ := List.exists_cons_of_ne_nil
      (fun h => hne (String.toList_inj.mp (h.trans rfl)) : key.toList ≠ [])
    rw [hline, trim, hcr, List.cons_append, trimStart_cons (hk c (by simp [hcr])),
      ← List.cons_append, trimEnd_append_cons (by decide)]
  have hcut : cut ":" (trimmed (Item.entryLine (key, value))) =
      some (key, String.ofList (trimEnd (' ' :: value.toList))) := by
    have hcut := cutAt_singleton (b := trimEnd (' ' :: value.toList)) hc
    rw [cut, trimmed, htrim, String.toList_ofList, String.toList_ofList, hcut]
    simp
  have hvalue : trimmed (String.ofList (trimEnd (' ' :: value.toList))) = value := by
    rw [trimmed, String.toList_ofList, trim_trimEnd_value hv, String.ofList_toList]
  rw [addLine, hcut]
  simp only
  rw [trimmed_of_isSolid hk, hvalue]

end Lines

/-! ## Blocks -/

namespace Item

variable {i : Item}

theorem isSolid_kindName (i : Item) : IsSolid i.kindName.toList := by
  unfold kindName
  cases i.isDirectory <;> decide

/-- The keys that are printed are words without a colon, and the values have no blank in them. -/
theorem isSolid_entries (i : Item) :
    ∀ e ∈ i.entries, e.1 ∈ "Attributes" :: knownKeys ∧ IsSolid e.2.toList := by
  unfold entries
  rw [List.forall_mem_append]
  constructor
  · simp only [List.forall_mem_cons, List.not_mem_nil, false_imp_iff, forall_const, and_true]
    exact ⟨⟨by decide, isSolid_kindName i⟩, ⟨by decide, isSolid_encodeText _⟩,
      ⟨by decide, isSolid_toString _⟩, ⟨by decide, isSolid_toString _⟩,
      ⟨by decide, isSolid_toString _⟩, ⟨by decide, isSolid_toString _⟩,
      ⟨by decide, isSolid_toString_int _⟩⟩
  · cases i.target with
    | none => simp
    | some t =>
      rw [List.forall_mem_singleton]
      exact ⟨by simp [knownKeys], isSolid_encodeText t⟩

/-- Printed lines put their values under their keys. -/
theorem foldl_addLine {l : List (String × String)}
    (h : ∀ e ∈ l, e.1 ∈ "Attributes" :: knownKeys ∧ IsSolid e.2.toList) (fields : Fields) :
    (l.map entryLine).foldl addLine fields =
      l.foldl (fun (f : Fields) e => f.put e.1 e.2) fields := by
  have hkeys : ∀ key ∈ "Attributes" :: knownKeys,
      IsSolid key.toList ∧ key ≠ "" ∧ ¬HasColon key := by decide
  induction l generalizing fields with
  | nil => rfl
  | cons e l ih =>
    obtain ⟨hk, hv⟩ := h e (by simp)
    obtain ⟨hs, hne, hc⟩ := hkeys _ hk
    rw [List.map_cons, List.foldl_cons, List.foldl_cons, ih (fun x hx => h x (by simp [hx]))]
    rw [show entryLine e = entryLine (e.1, e.2) from rfl, addLine_entryLine hs hne hc hv]

/-- Every printed line is a line with a colon. -/
theorem isInner_entryLine (entry : String × String) :
    IsInner (entryLine entry) ∧ HasColon (entryLine entry) := by
  have hc : HasColon (entryLine entry) := by simp [HasColon, entryLine]
  refine ⟨⟨fun he => ?_, fun he => ?_⟩, hc⟩
  all_goals
    rw [← hasColon_trimmed, he] at hc
    revert hc
    decide

/-- The fields of an item in the order in which they are kept. -/
def fields (i : Item) : Fields :=
  [("Atime", toString i.accessed), ("Attributes", toString i.attributes),
    ("Ctime", toString i.created), ("Length", toString i.length)] ++
  ((match i.target with
    | some t => [("LinkTarget", encodeText t)]
    | none => []) ++
  [("Mtime", toString i.modified), ("Path", encodeText i.path), ("Type", i.kindName)])

/-- The fields that the lines of an item make. -/
theorem fieldsOf_lines (i : Item) : fieldsOf (i.entries.map entryLine) = i.fields := by
  rw [fieldsOf, foldl_addLine (isSolid_entries i), entries, fields]
  -- the order of the keys is decided by the literals alone
  cases i.target <;>
    simp only [List.cons_append, List.nil_append, List.foldl_cons, List.foldl_nil, Fields.put,
      String.reduceEq, String.reduceLT, ↓reduceIte]

/-- What the fields of an item hold under the keys that have a place of their own. -/
theorem get?_fields (i : Item) :
    (i.fields.get? "Path" = some (encodeText i.path) ∧
      i.fields.get? "LinkTarget" = i.target.map encodeText ∧
      i.fields.get? "Type" = some i.kindName ∧ i.fields.get? "Length" = some (toString i.length)) ∧
    i.fields.get? "Ctime" = some (toString i.created) ∧
      i.fields.get? "Mtime" = some (toString i.modified) ∧
      i.fields.get? "Atime" = some (toString i.accessed) := by
  unfold fields
  cases i.target <;> simp [Fields.get?, List.lookup_cons]

theorem targetOf_fields (i : Item) : targetOf i.fields = .ok i.target := by
  obtain ⟨⟨-, htarget, -⟩, -⟩ := get?_fields i
  rw [targetOf, htarget]
  cases i.target with
  | none => rfl
  | some t =>
    simp only [Option.map_some, decodeText_encodeText, orMalformed]
    rfl

theorem typeOf_fields (i : Item) :
    typeOf i.fields i.target = .ok (if i.target.isSome then .link else i.kind) := by
  obtain ⟨⟨-, -, htype, -⟩, -⟩ := get?_fields i
  have hkind : kindOf? i.kindName = some i.kind := by
    unfold kindName kind
    cases i.isDirectory <;> rfl
  rw [typeOf, htype]
  cases i.target with
  | none =>
    simp only [Option.getD_some, hkind, orMalformed]
    rfl
  | some t => rfl

theorem lengthOf_fields (i : Item) : lengthOf i.fields = .ok i.length := by
  obtain ⟨⟨-, -, -, hlength⟩, -⟩ := get?_fields i
  rw [lengthOf, hlength]
  simp only [nat64?_toString i.length_lt, orMalformed]

theorem extendedOf_fields (i : Item) :
    extendedOf i.fields = [("attributes", toString i.attributes)] := by
  have hlower : Case.lower "Attributes" = "attributes" := by decide
  unfold extendedOf fields
  cases i.target <;> simp [knownKeys, Fields.ofList, Fields.put, hlower]

/-- The record of which no more than kind, path and target is known. -/
def base (i : Item) : Metadata :=
  { fileType := if i.target.isSome then .link else i.kind
    path := i.path
    linkTarget := i.target
    canonicalPath := i.target.elim i.path (Path.resolve i.path · '\\') }

theorem make?_base (i : Item) :
    Metadata.make? (if i.target.isSome then .link else i.kind) i.path i.target '\\' =
      .ok i.base := by
  unfold base kind
  cases i.target with
  | some t => rfl
  | none => cases i.isDirectory <;> rfl

/-- **The record of the fields of an item shows the item.** -/
theorem ofFields_fields (i : Item) : ∃ m, ofFields i.fields = .ok m ∧ i.Shows m := by
  obtain ⟨⟨hpath, -⟩, hc, hm, ha⟩ := get?_fields i
  have hrecord : ofFields i.fields = .ok
      { i.base with
        size := i.length
        created := instantOfTicks (toString i.created)
        modified := instantOfTicks (toString i.modified)
        accessed := instantOfTicks (toString i.accessed)
        extended := [("attributes", toString i.attributes)] } := by
    simp only [ofFields, hpath, hc, hm, ha, orMalformed, bind, Except.bind, decodeText_encodeText,
      targetOf_fields, typeOf_fields, lengthOf_fields, make?_base, extendedOf_fields, Option.bind]
  exact ⟨_, hrecord,
    { path := rfl
      size := rfl
      fileType := rfl
      linkTarget := rfl
      canonicalPath := rfl
      created := isTime_instantOfTicks i.created_lt
      modified := isTime_instantOfTicks i.modified_lt
      accessed := isTime_instantOfTicks i.accessed_lt
      attributes := rfl
      unix := rfl }⟩

/-- An item is read as a record that shows it, and takes no more than its lines. -/
theorem readRecord_lines (i : Item) (l : List String) :
    ∃ m, readRecord (i.lines ++ l) = some (.ok m, l) ∧ i.Shows m := by
  obtain ⟨m, hm, hs⟩ := ofFields_fields i
  refine ⟨m, ?_, hs⟩
  have hbody : ∀ line ∈ i.entries.map entryLine, IsInner line ∧ HasColon line := by
    intro line hl
    obtain ⟨e, -, rfl⟩ := List.mem_map.mp hl
    exact isInner_entryLine e
  have hopen : trimmed "\x7b" = "\x7b" := by decide
  have hclose : trimmed "\x7d" = "\x7d" := by decide
  rw [lines, List.cons_append, List.append_assoc, readRecord_open hopen, readBlock_append hbody,
    List.singleton_append, readBlock_close hclose, ← fieldsOf, fieldsOf_lines, hm]

end Item

/-- Items printed one after another are read one after another. -/
theorem takes_items (items : List Item) :
    ∃ records, Takes (items.flatMap Item.lines) (records.map .ok) [] ∧
      List.Forall₂ Item.Shows items records := by
  induction items with
  | nil => exact ⟨[], .stop [], .nil⟩
  | cons i items ih =>
    obtain ⟨records, ht, hs⟩ := ih
    obtain ⟨m, hm, hi⟩ := i.readRecord_lines (items.flatMap Item.lines)
    exact ⟨m :: records, .next hm ht, .cons hi hs⟩

/-- Nothing but blank lines arrives for no lines. -/
theorem Arrives.isBlankLine {arrived : List String} (h : Arrives [] arrived) :
    ∀ line ∈ arrived, IsBlankLine line := by
  generalize hs : ([] : List String) = sent at h
  induction h with
  | done => simp
  | line _ _ => cases hs
  | blank hb _ ih => exact List.forall_mem_cons.mpr ⟨hb, ih hs⟩

/--
**Items are read back as they were printed.** Items are printed one after another, and their lines
arrive with any blanks around them and with blank lines anywhere. Calls for one record each then
give one record for each item, in order, which shows all that was printed of the item; they leave
nothing but blank lines, and the next call finds no record in these.
-/
theorem printed_items_read_back {items : List Item} {arrived : List String}
    (h : Arrives (items.flatMap Item.lines) arrived) :
    ∃ records last, Takes arrived (records.map .ok) last ∧ List.Forall₂ Item.Shows items records ∧
      (∀ line ∈ last, IsBlankLine line) ∧ readRecord last = none := by
  obtain ⟨records, ht, hs⟩ := takes_items items
  obtain ⟨last, ht', hlast⟩ := ht.of_arrives h
  have hblank := hlast.isBlankLine
  exact ⟨records, last, ht', hs, hblank,
    readRecord_eq_none_iff.mpr fun line hl => trimmed_of_isBlankLine (hblank line hl)⟩

/-- A file and a link to a directory, with blank lines before and between them and a line indented. -/
theorem file_and_link_read_back :
    let file : Item := { path := "C:\\a b", modified := 116444736010000000, length := 42 }
    let link : Item := { path := "C:\\l", isDirectory := true, target := some "..\\ä" }
    let arrived := "" :: "  \x7b\r" :: (file.lines.tail ++ "\t" :: link.lines)
    Arrives ([file, link].flatMap Item.lines) arrived ∧
      ∃ records last, Takes arrived (records.map .ok) last ∧
        List.Forall₂ Item.Shows [file, link] records ∧
        (∀ line ∈ last, IsBlankLine line) ∧ readRecord last = none := by
  intro file link arrived
  have hlines : [file, link].flatMap Item.lines = "\x7b" :: (file.lines.tail ++ link.lines) := by
    simp [Item.lines]
  have hindented : IsPadded "\x7b" "  \x7b\r" := ⟨[' ', ' '], ['\r'], by decide, by decide, rfl⟩
  have h : Arrives ([file, link].flatMap Item.lines) arrived := by
    rw [hlines]
    refine .blank (by decide) (.line hindented ((Arrives.refl _).append ?_))
    exact .blank (by decide) (Arrives.refl _)
  exact ⟨h, printed_items_read_back h⟩

end RemoteSearch.Windows

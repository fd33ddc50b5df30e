import RemoteSearch.Machine.Find
import RemoteSearch.Proofs.Text.Encoding
import RemoteSearch.Proofs.Unix.Operands

/-!
# Literal names

A name that is asked for, or excluded, is handed to `find` as a glob. The glob has to match this
name and no other, whatever characters of the name mean something in globs.

* `Glob.Matches`: what globs match, item by item.
* `isMatch_escape_iff`: the glob for a name matches the name only.
* `nameWords_layout`: which words of a command come behind `-name`.
* `literal_names_match_themselves`: both together, for the command of any query.
-/

namespace RemoteSearch.Unix

open Shell

/-! ## Globs -/

namespace Glob

variable {is : List Item} {name text : List Char}

/-- Items match a text: a run takes any characters, every other item takes one. -/
inductive Matches : List Item → List Char → Prop where
  | nil : Matches [] []
  | run {is : List Item} {text : List Char} (taken : List Char) (h : Matches is text) :
      Matches (.anyRun :: is) (taken ++ text)
  | one {i : Item} {is : List Item} {c : Char} {text : List Char} (hi : i ≠ .anyRun)
      (hc : i.takes c = true) (h : Matches is text) : Matches (i :: is) (c :: text)

/-- A run takes nothing, or a character and then what a run takes. -/
theorem matches_anyRun_iff : Matches (.anyRun :: is) text ↔
    Matches is text ∨ ∃ c rest, text = c :: rest ∧ Matches (.anyRun :: is) rest := by
  constructor
  · intro h
    cases h with
    | run taken h =>
      cases taken with
      | nil => exact Or.inl h
      | cons c taken => exact Or.inr ⟨c, _, rfl, .run taken h⟩
    | one hi => exact absurd rfl hi
  · rintro (h | ⟨c, rest, rfl, h⟩)
    · exact .run [] h
    · cases h with
      | run taken h => exact .run (c :: taken) h
      | one hi => exact absurd rfl hi

/-- Any other item takes the first character. -/
theorem matches_cons_iff {i : Item} (hi : i ≠ .anyRun) : Matches (i :: is) text ↔
    ∃ c rest, text = c :: rest ∧ i.takes c = true ∧ Matches is rest := by
  constructor
  · intro h
    cases h with
    | run => exact absurd rfl hi
    | one _ hc h => exact ⟨_, _, rfl, hc, h⟩
  · rintro ⟨c, rest, rfl, hc, h⟩
    exact .one hi hc h

/-- **Matching finds out whether items match.** -/
theorem matchItems_iff : matchItems is text = true ↔ Matches is text := by
  fun_induction matchItems is text with
  | case1 => exact iff_of_true rfl .nil
  | case2 c text =>
    refine iff_of_false (by simp) ?_
    intro h
    cases h
  | case3 is ih =>
    rw [ih, matches_anyRun_iff]
    simp
  | case4 is c text ih ih' =>
    rw [Bool.or_eq_true, ih, ih']
    refine (matches_anyRun_iff.trans ?_).symm
    simp
  | case5 i is hi =>
    rw [matches_cons_iff hi]
    simp
  | case6 i is c text hi ih =>
    rw [Bool.and_eq_true, ih, matches_cons_iff hi]
    simp

/-- Literal characters match themselves only. -/
theorem matches_literal_iff : Matches (name.map .literal) text ↔ text = name := by
  induction name generalizing text with
  | nil =>
    constructor
    · intro h
      cases h
      rfl
    · rintro rfl
      exact .nil
  | cons c name ih =>
    rw [List.map_cons, matches_cons_iff (by simp)]
    constructor
    · rintro ⟨d, rest, rfl, hd, h⟩
      rw [ih.mp h, beq_iff_eq.mp hd]
    · rintro rfl
      exact ⟨c, name, rfl, beq_self_eq_true c, ih.mpr rfl⟩

theorem escapeText_cons (c : Char) (name : List Char) :
    escapeText (c :: name) = (if isSpecial c then ['\\', c] else [c]) ++ escapeText name := rfl

/-- A character after a backslash is read as itself. -/
theorem items_escaped (c : Char) (glob : List Char) :
    items ('\\' :: c :: glob) = .literal c :: items glob := by
  rw [items]

/-- And so is a character that means nothing. -/
theorem items_plain {c : Char} (hc : ¬isSpecial c = true) (glob : List Char) :
    items (c :: glob) = .literal c :: items glob := by
  rw [items]
  · rintro rfl
    exact hc rfl
  · rintro rfl
    exact hc rfl
  · rintro d r rfl
    exact absurd rfl hc
  · rintro rfl
    exact hc rfl

/-- The glob for a name is read as the characters of the name, one by one. -/
theorem items_escapeText (name : List Char) : items (escapeText name) = name.map .literal := by
  induction name with
  | nil => rw [escapeText, List.flatMap_nil, items, List.map_nil]
  | cons c name ih =>
    rw [escapeText_cons, List.map_cons, ← ih]
    by_cases hc : isSpecial c = true
    · rw [if_pos hc]
      exact items_escaped c _
    · rw [if_neg hc]
      exact items_plain hc _

/-- **The glob for a name matches the name only.** -/
theorem isMatch_escape_iff : isMatch (escapeText name) text = true ↔ text = name := by
  rw [isMatch, items_escapeText, matchItems_iff, matches_literal_iff]

end Glob

/-! ### Byte by byte -/

section Bytes

open Machine Text

variable {c : Char} {b : UInt8} {name : List Char}

/-- Bytes are seen as characters with their numbers. -/
theorem toNat_ofNat_byte (b : UInt8) : (Char.ofNat b.toNat).toNat = b.toNat := by
  have hvalid : b.toNat.isValidChar := Or.inl (Nat.lt_trans b.toNat_lt (by decide))
  have hself : Char.ofNat b.toNat = Char.ofNatAux b.toNat hvalid := dif_pos hvalid
  rw [hself]
  rfl

theorem asChars_inj {x y : List UInt8} : asChars x = asChars y ↔ x = y := by
  refine (List.map_injective_iff.mpr fun a b hab => ?_).eq_iff
  rw [← UInt8.toNat_inj, ← toNat_ofNat_byte a, hab, toNat_ofNat_byte]

theorem ascii_of_isSpecial (hc : Glob.isSpecial c = true) : c.toNat < 0x80 := by
  simp only [Glob.isSpecial, List.contains_iff_mem, List.mem_cons, List.not_mem_nil, or_false] at hc
  rcases hc with rfl | rfl | rfl | rfl | rfl <;> decide

/-- The bytes of an ASCII text are its characters. -/
theorem asChars_encode_ascii (h : ∀ c ∈ name, c.toNat < 0x80) :
    asChars (Utf8.encode name) = name := by
  rw [Utf8.encode_of_isAscii h, asChars, List.map_map]
  have hself : ∀ c ∈ name, ((fun b : UInt8 => Char.ofNat b.toNat) ∘ fun c => c.toNat.toUInt8) c =
      id c := by
    intro c hc
    have hlt := h c hc
    show Char.ofNat c.toNat.toUInt8.toNat = c
    rw [Utf8.toNat_toUInt8 (by omega), Char.ofNat_toNat]
  rw [List.map_congr_left hself, List.map_id]

theorem escapeText_eq_self (h : ∀ c ∈ name, ¬Glob.isSpecial c = true) :
    Glob.escapeText name = name := by
  induction name with
  | nil => rfl
  | cons c name ih =>
    rw [Glob.escapeText_cons, if_neg (h c List.mem_cons_self),
      ih fun d hd => h d (List.mem_cons_of_mem c hd), List.singleton_append]

theorem asChars_encode_append (x y : List Char) :
    asChars (Utf8.encode (x ++ y)) = asChars (Utf8.encode x) ++ asChars (Utf8.encode y) := by
  rw [Utf8.encode, List.flatMap_append, asChars, List.map_append]
  rfl

theorem asChars_encode_escapeText_singleton (c : Char) :
    asChars (Utf8.encode (Glob.escapeText [c])) = Glob.escapeText (asChars (Utf8.encode [c])) := by
  by_cases hc : c.toNat < 0x80
  · have hascii : ∀ d ∈ Glob.escapeText [c], d.toNat < 0x80 := by
      intro d hd
      rw [Glob.escapeText_cons, Glob.escapeText, List.flatMap_nil, List.append_nil] at hd
      split at hd <;> simp only [List.mem_cons, List.not_mem_nil, or_false] at hd
      · rcases hd with rfl | rfl
        · decide
        · exact hc
      · exact hd ▸ hc
    rw [asChars_encode_ascii hascii, asChars_encode_ascii (List.forall_mem_singleton.mpr hc)]
  · -- no byte of such a character means anything in a glob
    have hplain : ∀ d ∈ asChars (Utf8.encode [c]), ¬Glob.isSpecial d = true := by
      intro d hd hs
      obtain ⟨b, hb, rfl⟩ := List.mem_map.mp hd
      rw [Utf8.encode, List.flatMap_singleton] at hb
      have hlt := ascii_of_isSpecial hs
      rw [toNat_ofNat_byte] at hlt
      exact hc (Utf8.toNat_eq_of_mem_encodeChar hb hlt ▸ hlt)
    rw [escapeText_eq_self hplain, escapeText_eq_self]
    intro d hd hs
    rw [List.mem_singleton.mp hd] at hs
    exact hc (ascii_of_isSpecial hs)

/-- Only single bytes are put a backslash before, so names can be escaped before or after they are
encoded. -/
theorem asChars_encode_escapeText (name : List Char) :
    asChars (Utf8.encode (Glob.escapeText name)) =
      Glob.escapeText (asChars (Utf8.encode name)) := by
  induction name with
  | nil => rfl
  | cons c name ih =>
    have hescape : ∀ x y, Glob.escapeText (x ++ y) = Glob.escapeText x ++ Glob.escapeText y :=
      fun _ _ => List.flatMap_append
    rw [← List.singleton_append, hescape, asChars_encode_append, ih,
      asChars_encode_escapeText_singleton, ← hescape, ← asChars_encode_append]

/-- A `find` that compares bytes takes the name only, too. -/
theorem globMatches_escape_iff {name candidate : String} :
    globMatches (Glob.escape name) candidate = true ↔ candidate = name := by
  rw [globMatches, Glob.escape, Utf8.encodeString, String.toList_ofList, asChars_encode_escapeText,
    Glob.isMatch_escape_iff, asChars_inj, Utf8.encodeString, Utf8.encode_inj, String.toList_inj]

end Bytes

/-! ## Commands -/

/-- The place of the word that names are announced with. -/
def nameSlot : Slot := word "-name"

/-- The place of the word that turns a test around. -/
def notSlot : Slot := word "!"

/-- The words that come behind `-name` in a command, each with whether its test is turned around.
`before` holds the places before, the last one first. -/
def nameWords (before : List Slot) : List (Slot × Token) → List (Bool × Token)
  | [] => []
  | (x, t) :: r =>
    (if before.head? = some nameSlot then [(decide (before[1]? = some notSlot), t)] else []) ++
      nameWords (x :: before) r

variable {before l : List Slot} {f : Hole → Option String} {d : Dialect} {s : Shape}

theorem nameWords_append (l l' : List Slot) :
    nameWords before ((l ++ l').map fun x => (x, x.fill f)) =
      nameWords before (l.map fun x => (x, x.fill f)) ++
        nameWords (l.reverse ++ before) (l'.map fun x => (x, x.fill f)) := by
  induction l generalizing before with
  | nil => rfl
  | cons x l ih =>
    simp only [List.cons_append, List.map_cons, nameWords, ih, List.append_assoc, List.reverse_cons,
      List.nil_append]

/-- Without `-name` there are no such words. -/
theorem nameWords_eq_nil (hb : before.head? ≠ some nameSlot) (hl : nameSlot ∉ l) :
    nameWords before (l.map fun x => (x, x.fill f)) = [] := by
  induction l generalizing before with
  | nil => rfl
  | cons x l ih =>
    rw [List.mem_cons, not_or] at hl
    rw [List.map_cons, nameWords, if_neg hb, List.nil_append]
    exact ih (fun h => hl.1 (Option.some.inj h).symm) hl.2

theorem nameSlot_ne_text {h : Hole} : nameSlot ≠ .text h := nofun

theorem nameSlot_notMem_findLayout {start : Slot} {limited : Bool} (hs : nameSlot ≠ start) :
    nameSlot ∉ findLayout s start limited := by
  simp +decide [findLayout, mem_onlyIf, hs]

theorem nameSlot_notMem_grepLayout {mode : String} {h : Hole} (hm : nameSlot ≠ word mode) :
    nameSlot ∉ grepLayout mode h := by
  simp +decide [grepLayout, hm, nameSlot_ne_text]

theorem nameSlot_notMem_awkLayout {h : Hole} : nameSlot ∉ awkLayout h := by
  simp +decide [awkLayout, nameSlot_ne_text]

theorem nameSlot_notMem_relativeLayout : nameSlot ∉ relativeLayout := by decide

theorem nameSlot_notMem_listLayout : nameSlot ∉ listLayout d := by
  unfold listLayout listWords
  cases d.kind <;> decide

theorem nameSlot_notMem_onlyIf {b : Bool} (hl : nameSlot ∉ l) : nameSlot ∉ onlyIf b l :=
  fun h => hl (mem_onlyIf.mp h).2

/-- Constraints on names have their tests in one place, behind the kind of object, if they have any
part in the command. -/
theorem layout_names (d : Dialect) (s : Shape) :
    if s.arm.takesNames then
      ∃ front back, layout d s = front ++ .text .kind :: (namesLayout s ++ back) ∧
        nameSlot ∉ front ∧ nameSlot ∉ back
    else nameSlot ∉ layout d s := by
  have hroot : ∀ limited, nameSlot ∉ findLayout s (.text .root) limited := fun _ =>
    nameSlot_notMem_findLayout nameSlot_ne_text
  have hawk : ∀ b h, nameSlot ∉ onlyIf b (awkLayout h) := fun _ _ =>
    nameSlot_notMem_onlyIf nameSlot_notMem_awkLayout
  have hkind : nameSlot ∉ [word "-type", .text .kind] := by decide
  have hend := nameSlot_notMem_listLayout (d := d)
  unfold layout pathsLayout
  cases ha : s.arm with
  | path literal =>
    have hgrep : nameSlot ∉ grepLayout (if literal then "-Fx" else "-E") .path := by
      cases literal <;> exact nameSlot_notMem_grepLayout (by decide)
    simp only [Arm.takesNames, Bool.false_eq_true, if_false, List.mem_append, not_or]
    exact ⟨⟨⟨⟨hroot _, hkind⟩, hgrep⟩, hawk _ _⟩, hend⟩
  | directories =>
    have hgrep : nameSlot ∉ grepLayout "-E" .dirname := nameSlot_notMem_grepLayout (by decide)
    simp only [Arm.takesNames, Bool.false_eq_true, if_false, List.mem_append, not_or]
    exact ⟨⟨⟨⟨hroot _, hkind⟩, hgrep⟩, hawk _ _⟩, hend⟩
  | nested =>
    have hgrep : nameSlot ∉ grepLayout "-E" .dirname := nameSlot_notMem_grepLayout (by decide)
    have hinner : ∀ limited, nameSlot ∉ findLayout s (value 'd') limited := fun _ =>
      nameSlot_notMem_findLayout (by decide)
    have hloop : nameSlot ∉ loopLayout 'd' := by decide
    have houter : nameSlot ∉ [word "-type", word "d"] := by decide
    have htype : nameSlot ∉ [word "-type"] := by decide
    have hdone : nameSlot ∉ [semicolon, word "done"] := by decide
    have hrelative : ∀ b, nameSlot ∉ onlyIf b relativeLayout := fun _ =>
      nameSlot_notMem_onlyIf nameSlot_notMem_relativeLayout
    simp only [Arm.takesNames, if_true]
    refine ⟨findLayout s (.text .root) false ++ [word "-type", word "d"] ++
        grepLayout "-E" .dirname ++ loopLayout 'd' ++
        findLayout s (value 'd') (s.hasDepth && d.nativeDepth) ++ [word "-type"],
      onlyIf (s.hasDepth && !d.nativeDepth) relativeLayout ++ [semicolon, word "done"] ++
        onlyIf s.hasPattern (awkLayout .nameProgram) ++ listLayout d,
      by simp only [List.append_assoc, List.cons_append, List.nil_append], ?_, ?_⟩
    · simp only [List.mem_append, not_or]
      exact ⟨⟨⟨⟨⟨hroot _, houter⟩, hgrep⟩, hloop⟩, hinner _⟩, htype⟩
    · simp only [List.mem_append, not_or]
      exact ⟨⟨⟨hrelative _, hdone⟩, hawk _ _⟩, hend⟩
  | names =>
    have htype : nameSlot ∉ [word "-type"] := by decide
    simp only [Arm.takesNames, if_true]
    refine ⟨findLayout s (.text .root) (s.hasDepth && d.nativeDepth) ++ [word "-type"],
      onlyIf s.hasPattern (awkLayout .nameProgram) ++
        onlyIf (s.hasDepth && !d.nativeDepth) (awkLayout .depthProgram) ++ listLayout d,
      by simp only [List.append_assoc, List.cons_append, List.nil_append], ?_, ?_⟩
    · simp only [List.mem_append, not_or]
      exact ⟨hroot _, htype⟩
    · simp only [List.mem_append, not_or]
      exact ⟨⟨hawk _ _, hawk _ _⟩, hend⟩

/-- Behind the kind of object, the tests for names have a word each behind `-name`. -/
theorem nameWords_namesLayout (back : List Slot) (hback : nameSlot ∉ back) :
    nameWords (.text .kind :: before) ((namesLayout s ++ back).map fun x => (x, x.fill f)) =
      (if s.hasEquals then [(false, (Slot.text .equals).fill f)] else []) ++
        if s.hasDiffers then [(true, (Slot.text .differs).fill f)] else [] := by
  have hrest : ∀ b : List Slot, b.head? ≠ some nameSlot →
      nameWords b (back.map fun x => (x, x.fill f)) = [] := fun _ hb =>
    nameWords_eq_nil hb hback
  rw [nameWords_append]
  unfold namesLayout
  cases s.hasEquals <;> cases s.hasDiffers
  all_goals
    rw [hrest _ (by simp +decide)]
    rfl

/-! ## Names of a query -/

/-- The literal names that a query has in its command, each with whether it is excluded. -/
def literalNames (q : Query) : List (Bool × String) :=
  if (arm q).takesNames then
    (q.basename.equals.map fun name => (false, name)).toList ++
      (q.basename.differs.map fun name => (true, name)).toList
  else []

/-- **Behind each `-name` of a command stands the glob for a name of the query.** -/
theorem nameWords_layout (d : Dialect) (q : Query) :
    nameWords [] ((layout d (shape q)).map fun x => (x, x.fill (intended d q))) =
      (literalNames q).map fun x => (x.1, argument (Glob.escape x.2).toList) := by
  have hnames := layout_names d (shape q)
  by_cases ha : (arm q).takesNames = true
  · rw [if_pos (show (shape q).arm.takesNames = true from ha)] at hnames
    obtain ⟨front, back, hlayout, hfront, hback⟩ := hnames
    -- the word for the kind stands behind `-type`, and no test for a name before it
    have hhead : (front.reverse ++ []).head? ≠ some nameSlot := by
      intro h
      rw [List.append_nil] at h
      exact hfront (List.mem_reverse.mp (List.mem_of_mem_head? h))
    rw [hlayout, nameWords_append, nameWords_eq_nil (by simp) hfront, List.nil_append,
      List.map_cons, nameWords, if_neg hhead, List.nil_append, nameWords_namesLayout back hback,
      literalNames, if_pos ha]
    cases he : q.basename.equals <;> cases hd : q.basename.differs <;>
      simp [shape, he, hd, Slot.fill, intended, ha]
  · rw [if_neg (show ¬(shape q).arm.takesNames = true from ha)] at hnames
    rw [nameWords_eq_nil (by simp) hnames, literalNames, if_neg ha, List.map_nil]

/--
**Names in a search match themselves only.** The glob that is made of a name matches this name and
no other, for a `find` that goes by characters as for one that goes by bytes, and on every kind of
system these globs are what the shell hands to the tests for names: the one behind `-name` for the
name that is asked for, and the one behind `! -name` for the name that is excluded.
-/
theorem literal_names_match_themselves (d : Dialect) (q : Query) :
    (∀ name candidate : String,
      (Glob.isMatch (Glob.escape name).toList candidate.toList = true ↔ candidate = name) ∧
      (Machine.globMatches (Glob.escape name) candidate = true ↔ candidate = name)) ∧
    ∃ toks, Shell.tokens? (compile d q).command.toList = some toks ∧
      nameWords [] ((layout d (shape q)).zip toks) =
        (literalNames q).map fun x => (x.1, argument (Glob.escape x.2).toList) := by
  refine ⟨fun name candidate => ⟨?_, globMatches_escape_iff⟩, _, tokens?_compile d q, ?_⟩
  · rw [Glob.escape, String.toList_ofList, Glob.isMatch_escape_iff, String.toList_inj]
  · rw [zip_map_fill, nameWords_layout]

end RemoteSearch.Unix

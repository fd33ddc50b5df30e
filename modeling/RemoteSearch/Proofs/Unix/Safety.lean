import Mathlib.Data.List.Forall2
import RemoteSearch.Proofs.Unix.Reading

/-!
# Safety of commands

No text of a query gets out of its place in the command. The words and operators of the command
depend on the shape of the query only, and each text is one word, quoted in a way that leaves
nothing to the shell (`texts_stay_in_place`).
-/

namespace RemoteSearch.Unix

open Shell

variable {d : Dialect} {h : Hole}

/-- Whether a token belongs in a place: the word for a text has nothing in it but the text. -/
def Fits (f : Hole → Option String) : Slot → Token → Prop
  | .token t, t' => t' = t
  | .text h, t' => ∃ a, f h = some a ∧ t'.text? = some a.toList ∧ IsInert t'

theorem fits_fill {f : Hole → Option String} {x : Slot}
    (hx : ∀ h, x = .text h → (f h).isSome = true) : Fits f x (x.fill f) := by
  cases x with
  | token t => rfl
  | text h =>
    obtain ⟨a, ha⟩ := Option.isSome_iff_exists.mp (hx h rfl)
    refine ⟨a, ha, ?_, isInert_argument _⟩
    simp [Slot.fill, ha]

/-! ## Places and texts -/

/-- Whether queries of a shape have a text for a place. -/
def Shape.hasText (d : Dialect) (s : Shape) : Hole → Bool
  | .root | .kind => true
  | .fsType => s.hasFsType
  | .path =>
    match s.arm with
    | .path _ => true
    | _ => false
  | .dirname =>
    match s.arm with
    | .directories | .nested => true
    | _ => false
  | .equals => s.arm.takesNames && s.hasEquals
  | .differs => s.arm.takesNames && s.hasDiffers
  | .nameProgram => s.arm.takesNames && s.hasPattern
  | .depth => s.hasDepth && d.nativeDepth
  | .depthProgram => s.hasDepth && !d.nativeDepth && s.arm ≠ .nested
  | .relativeProgram => s.hasDepth && !d.nativeDepth && s.arm = .nested

/-- A query has the texts that its shape says. -/
theorem isSome_intended (d : Dialect) (q : Query) (h : Hole) :
    (intended d q h).isSome = (shape q).hasText d h := by
  cases h with
  | root => rfl
  | kind => rfl
  | fsType => rfl
  | path =>
    rcases hb : q.branch with (_ | _) | _ | _ <;> cases hk : q.kind <;>
      simp [intended, Shape.hasText, shape, arm, hb, hk]
  | dirname =>
    rcases hb : q.branch with (_ | _) | _ | _ <;> cases hk : q.kind <;>
      simp [intended, Shape.hasText, shape, arm, hb, hk]
  | equals => cases ht : (arm q).takesNames <;> simp [intended, Shape.hasText, shape, ht]
  | differs => cases ht : (arm q).takesNames <;> simp [intended, Shape.hasText, shape, ht]
  | nameProgram => cases ht : (arm q).takesNames <;> simp [intended, Shape.hasText, shape, ht]
  | depth => cases hd : d.nativeDepth <;> simp [intended, Shape.hasText, shape, hd]
  | depthProgram =>
    cases hd : d.nativeDepth <;> by_cases ha : arm q = .nested <;>
      simp [intended, Shape.hasText, shape, hd, ha]
  | relativeProgram =>
    cases hd : d.nativeDepth <;> by_cases ha : arm q = .nested <;>
      simp [intended, Shape.hasText, shape, hd, ha]

theorem mem_onlyIf {x : Slot} {b : Bool} {l : List Slot} :
    x ∈ onlyIf b l ↔ b = true ∧ x ∈ l := by
  cases b <;> simp

theorem text_mem_findLayout {s : Shape} {start : Slot} {limited : Bool} :
    .text h ∈ findLayout s start limited ↔
      .text h = start ∨ limited = true ∧ h = .depth ∨ s.hasFsType = true ∧ h = .fsType := by
  simp [findLayout, mem_onlyIf, word]

theorem text_mem_namesLayout {s : Shape} :
    .text h ∈ namesLayout s ↔
      s.hasEquals = true ∧ h = .equals ∨ s.hasDiffers = true ∧ h = .differs := by
  simp [namesLayout, mem_onlyIf, word]

theorem text_mem_grepLayout {mode : String} {g : Hole} : .text h ∈ grepLayout mode g ↔ h = g := by
  simp [grepLayout, bar, word]

theorem text_mem_awkLayout {g : Hole} : .text h ∈ awkLayout g ↔ h = g := by
  simp [awkLayout, bar, word]

theorem text_mem_relativeLayout : .text h ∈ relativeLayout ↔ h = .relativeProgram := by
  simp [relativeLayout, bar, word]

theorem text_notMem_loopLayout {c : Char} : Slot.text h ∉ loopLayout c := by
  simp [loopLayout, bar, semicolon, word]

theorem text_notMem_listWords : Slot.text h ∉ listWords d := by
  unfold listWords
  split <;> simp [word]

theorem text_notMem_listLayout : Slot.text h ∉ listLayout d := by
  simp [listLayout, text_notMem_loopLayout, text_notMem_listWords, value, semicolon, word]

/-- **A layout has a place for a text exactly if queries of its shape have a text for it.** -/
theorem text_mem_layout_iff {s : Shape} : .text h ∈ layout d s ↔ s.hasText d h = true := by
  unfold layout pathsLayout
  rw [List.mem_append, or_iff_left text_notMem_listLayout]
  -- each branch has its own list of parts; a part has a text only if it is one of its own
  cases ha : s.arm <;> cases h <;>
    simp [text_mem_findLayout, text_mem_namesLayout, text_mem_grepLayout, text_mem_awkLayout,
      text_mem_relativeLayout, text_notMem_loopLayout, mem_onlyIf, word, value, semicolon,
      Shape.hasText, Arm.takesNames, ha]

/--
**No text of a query gets out of its place.** On every dialect the shell divides the command for a
query into words and operators, and leaves nothing open. These are the ones of its layout, which
depends on nothing but the branch that is taken, the flags and which fields are there; and the
places in it are those for the texts that the query has. The token in such a place is a single word.
Without its quotes it is the text for this place, and what stands in it without quotes means nothing
to the shell.
-/
theorem texts_stay_in_place (d : Dialect) (q : Query) :
    (∃ toks, Shell.tokens? (compile d q).command.toList = some toks ∧
      List.Forall₂ (Fits (intended d q)) (layout d (shape q)) toks) ∧
    ∀ h, .text h ∈ layout d (shape q) ↔ (intended d q h).isSome = true := by
  have hplaces : ∀ h, .text h ∈ layout d (shape q) ↔ (intended d q h).isSome = true := by
    intro h
    rw [text_mem_layout_iff, isSome_intended]
  refine ⟨⟨_, tokens?_compile d q, ?_⟩, hplaces⟩
  rw [List.forall₂_map_right_iff, List.forall₂_same]
  intro x hx
  refine fits_fill fun h hh => (hplaces h).mp ?_
  rw [← hh]
  exact hx

/-- A root with a quote and a semicolon in it stays one word. -/
example : (Shell.tokens? (compile (.ofKind .linux) { root := "/a'; rm b" }).command.toList).map
    (·[1]?) = some (some (.word ("/a'; rm b".toList.map .quoted))) := by decide +kernel

end RemoteSearch.Unix

import Mathlib.Tactic.Tauto
import RemoteSearch.Platform

/-!
# Conditions as a set

Conditions of one slot agree or there is no query. So a list of conditions says no more than the set
of them: a query holds what the conditions of each slot carry, and the order of the conditions and
their repetitions are lost.

* `conflict?_eq_none_iff`: no conflict is found in a list exactly if its conditions agree.
* `findSome?_eq_some_iff`: what is read from a slot is what its conditions carry.
* `ofConditions_eq_ok_iff`: which lists make a query, and which query it is.
* `Holds.unique`: the conditions determine the query.
* `made_by_the_set_of_conditions`: all of this together, up to the command and its key.
-/

namespace RemoteSearch

namespace Condition

variable {c d : Condition} {cs ds seen : List Condition}

theorem letter_of_ofLetter? {s : String} {k : SearchKind} (h : SearchKind.ofLetter? s = some k) :
    k.letter = s := by
  unfold SearchKind.ofLetter? at h
  split at h <;> cases h <;> rfl

/-- Conditions are what is made of their parts: nothing else gets past `make?`. -/
theorem make?_eq_ok_iff {field : Field} {comparison : Comparison} {value : Value} :
    make? field comparison value = .ok c ↔
      c.field = field ∧ c.comparison = comparison ∧ c.value = value := by
  constructor
  · intro h
    unfold make? at h
    -- a kind has to have a letter, and a depth has to be in range; the rest is taken as it comes
    split at h
    case h_1 s =>
      split at h
      · next k hk =>
        cases h
        exact ⟨rfl, rfl, congrArg Value.text (letter_of_ofLetter? hk)⟩
      · cases h
    case h_11 n =>
      split at h
      · cases h
      · split at h
        · next hn =>
          cases h
          exact ⟨rfl, rfl, congrArg Value.integer hn.symm⟩
        · cases h
          exact ⟨rfl, rfl, congrArg Value.integer (Int.toNat_of_nonneg (by omega))⟩
    case h_14 => cases h
    all_goals
      cases h
      exact ⟨rfl, rfl, rfl⟩
  · rintro ⟨rfl, rfl, rfl⟩
    exact make?_parts c

/-! ## Slots -/

/-- The slot of a condition: its property, and for the last name of a path the comparison too. -/
def slot (c : Condition) : Field × Option Comparison :=
  (c.field, if c.field = .basename then some c.comparison else none)

theorem sameSlot_iff : c.sameSlot d = true ↔ c.slot = d.slot := by
  -- only the last names of paths have more than one slot
  match c, d with
  | basename a, basename b => cases a <;> cases b <;> simp [sameSlot, slot, field, comparison]
  | basename _, fileType _ | basename _, path _ | basename _, dirname _ | basename _, fsType _
  | basename _, root _ | basename _, depth _ | basename _, followLinks _ | basename _, xdev _ =>
    simp [sameSlot, slot, field]
  | fileType _, d | path _, d | dirname _, d | fsType _, d | root _, d | depth _, d
  | followLinks _, d | xdev _, d => cases d <;> simp [sameSlot, slot, field]

theorem comparison_eq (h : c.field ≠ .basename) :
    c.comparison = match c.value with
      | .pattern _ => .pattern
      | _ => .equality := by
  cases c with
  | path f => cases f <;> rfl
  | dirname f => cases f <;> rfl
  | depth limit => cases limit <;> rfl
  | basename _ => exact absurd rfl h
  | _ => rfl

/-- A condition is known by its slot and its value. -/
theorem eq_of_slot_eq (hs : c.slot = d.slot) (hv : c.value = d.value) : c = d := by
  have hf : c.field = d.field := congrArg Prod.fst hs
  have hc : c.comparison = d.comparison := by
    by_cases hb : c.field = .basename
    · have hsnd := congrArg Prod.snd hs
      simp only [slot] at hsnd
      rw [if_pos hb, if_pos (hf ▸ hb)] at hsnd
      exact Option.some.inj hsnd
    · -- elsewhere the comparison is told by the value
      rw [comparison_eq hb, comparison_eq (hf ▸ hb), hv]
  have h := make?_eq_ok_iff.mpr ⟨hf, hc, hv⟩
  rw [make?_parts d] at h
  exact (Except.ok.inj h).symm

/-- Conditions of one slot carry one value. -/
def Agree (cs : List Condition) : Prop :=
  ∀ c ∈ cs, ∀ d ∈ cs, c.slot = d.slot → c.value = d.value

theorem Agree.eq (h : Agree cs) (hc : c ∈ cs) (hd : d ∈ cs) (hs : c.slot = d.slot) : c = d :=
  eq_of_slot_eq hs (h c hc d hd hs)

theorem Agree.congr (h : ∀ c, c ∈ cs ↔ c ∈ ds) (ha : Agree cs) : Agree ds := by
  intro c hc d hd
  exact ha c ((h c).mpr hc) d ((h d).mpr hd)

theorem agree_snoc (h : Agree seen) (hc : ∀ d ∈ seen, d.slot = c.slot → d = c) :
    Agree (seen ++ [c]) := by
  intro a ha b hb hs
  rcases List.mem_append.mp ha with ha | ha <;> rcases List.mem_append.mp hb with hb | hb
  · exact h a ha b hb hs
  · rw [List.mem_singleton.mp hb] at hs ⊢
    rw [hc a ha hs]
  · rw [List.mem_singleton.mp ha] at hs ⊢
    rw [hc b hb hs.symm]
  · rw [List.mem_singleton.mp ha, List.mem_singleton.mp hb]

/-- Nothing conflicts with what was seen before exactly if all of it agrees. -/
theorem conflict?_eq_none_iff (h : Agree seen) : conflict? seen cs = none ↔ Agree (seen ++ cs) := by
  induction cs generalizing seen with
  | nil =>
    rw [List.append_nil]
    exact iff_of_true rfl h
  | cons c cs ih =>
    unfold conflict?
    cases hf : seen.find? fun d => d.sameSlot c && d != c with
    | some d =>
      -- two conditions of one slot that are not the same
      have hd : d ∈ seen ++ c :: cs := List.mem_append_left _ (List.mem_of_find?_eq_some hf)
      have hc : c ∈ seen ++ c :: cs := List.mem_append_right _ List.mem_cons_self
      have hne := List.find?_some hf
      rw [Bool.and_eq_true, sameSlot_iff, bne_iff_ne] at hne
      refine iff_of_false (fun hn => by cases hn) ?_
      intro ha
      exact hne.2 (ha.eq hd hc hne.1)
    | none =>
      have hall : ∀ d ∈ seen, d.slot = c.slot → d = c := by
        intro d hd hs
        refine Decidable.byContradiction fun hne => List.find?_eq_none.mp hf d hd ?_
        rw [Bool.and_eq_true, sameSlot_iff, bne_iff_ne]
        exact ⟨hs, hne⟩
      show conflict? (seen ++ [c]) cs = none ↔ _
      rw [ih (agree_snoc h hall), List.append_assoc, List.singleton_append]

/-- The conditions that `make` builds are one slot, and `read` tells what they carry. -/
structure IsSlot {α : Type} (read : Condition → Option α) (make : α → Condition) : Prop where
  read_iff : ∀ c a, read c = some a ↔ c = make a
  slot_eq : ∀ a b, (make a).slot = (make b).slot

namespace IsSlot

variable {α : Type} {read : Condition → Option α} {make : α → Condition} {a b : α}

theorem eq_of_mem (hs : IsSlot read make) (h : Agree cs) (ha : make a ∈ cs) (hb : make b ∈ cs) :
    a = b := by
  have he : make a = make b := h.eq ha hb (hs.slot_eq a b)
  have hread := (hs.read_iff _ b).mpr he
  rw [(hs.read_iff _ a).mpr rfl] at hread
  exact Option.some.inj hread

/-- What is read from a list is what the conditions of the slot carry. -/
theorem findSome?_eq_some_iff (hs : IsSlot read make) (h : Agree cs) :
    cs.findSome? read = some a ↔ make a ∈ cs := by
  have hmem : ∀ {b}, cs.findSome? read = some b → make b ∈ cs := by
    intro b hb
    obtain ⟨c, hc, hr⟩ := List.exists_of_findSome?_eq_some hb
    rw [← (hs.read_iff c b).mp hr]
    exact hc
  refine ⟨hmem, fun ha => ?_⟩
  cases hf : cs.findSome? read with
  | none =>
    have hr := List.findSome?_eq_none_iff.mp hf _ ha
    rw [(hs.read_iff _ a).mpr rfl] at hr
    cases hr
  | some b => rw [hs.eq_of_mem h ha (hmem hf)]

end IsSlot

theorem isSlot_root : IsSlot root? root where
  read_iff c a := by cases c <;> simp [root?]
  slot_eq _ _ := rfl

theorem isSlot_depth : IsSlot depth? depth where
  read_iff c a := by cases c <;> simp [depth?]
  slot_eq _ _ := rfl

theorem isSlot_kind : IsSlot kind? fileType where
  read_iff c a := by cases c <;> simp [kind?]
  slot_eq _ _ := rfl

theorem isSlot_path : IsSlot path? path where
  read_iff c a := by cases c <;> simp [path?]
  slot_eq _ _ := rfl

theorem isSlot_dirname : IsSlot dirname? dirname where
  read_iff c a := by cases c <;> simp [dirname?]
  slot_eq _ _ := rfl

theorem isSlot_equals : IsSlot equals? fun s => basename (.equals s) where
  read_iff c a := by rcases c with _ | _ | _ | ⟨_ | _ | _⟩ <;> simp [equals?]
  slot_eq _ _ := rfl

theorem isSlot_differs : IsSlot differs? fun s => basename (.differs s) where
  read_iff c a := by rcases c with _ | _ | _ | ⟨_ | _ | _⟩ <;> simp [differs?]
  slot_eq _ _ := rfl

theorem isSlot_namePattern : IsSlot namePattern? fun p => basename (.pattern p) where
  read_iff c a := by rcases c with _ | _ | _ | ⟨_ | _ | _⟩ <;> simp [namePattern?]
  slot_eq _ _ := rfl

theorem isSlot_fsType : IsSlot fsType? fsType where
  read_iff c a := by cases c <;> simp [fsType?]
  slot_eq _ _ := rfl

theorem isSlot_followLinks : IsSlot followLinks? followLinks where
  read_iff c a := by cases c <;> simp [followLinks?]
  slot_eq _ _ := rfl

theorem isSlot_xdev : IsSlot xdev? xdev where
  read_iff c a := by cases c <;> simp [xdev?]
  slot_eq _ _ := rfl

/-! ## Values and defaults -/

/-- The value that a slot has: what its conditions carry, or the default if there are none. -/
def Given {α : Type} (cs : List Condition) (make : α → Condition) (default a : α) : Prop :=
  make a ∈ cs ∨ (∀ b, make b ∉ cs) ∧ a = default

section Given

variable {α : Type} {read : Condition → Option α} {make : α → Condition} {default a b : α}

theorem Given.congr (h : ∀ c, c ∈ cs ↔ c ∈ ds) (hg : Given cs make default a) :
    Given ds make default a := by
  rcases hg with ha | ⟨hn, ha⟩
  · exact Or.inl ((h _).mp ha)
  · exact Or.inr ⟨fun b hb => hn b ((h _).mpr hb), ha⟩

theorem Given.eq_of_mem (hs : IsSlot read make) (h : Agree cs) (hg : Given cs make default a)
    (hb : make b ∈ cs) : a = b := by
  rcases hg with ha | ⟨hn, -⟩
  · exact hs.eq_of_mem h ha hb
  · exact absurd hb (hn b)

theorem Given.unique (hs : IsSlot read make) (h : Agree cs) (ha : Given cs make default a)
    (hb : Given cs make default b) : a = b := by
  rcases hb with hb | ⟨hn, rfl⟩
  · exact ha.eq_of_mem hs h hb
  · rcases ha with ha | ⟨-, rfl⟩
    · exact absurd ha (hn a)
    · rfl

theorem given_getD (hs : IsSlot read make) (h : Agree cs) :
    Given cs make default ((cs.findSome? read).getD default) := by
  cases hf : cs.findSome? read with
  | some a => exact Or.inl ((hs.findSome?_eq_some_iff h).mp hf)
  | none =>
    refine Or.inr ⟨fun b hb => ?_, rfl⟩
    rw [(hs.findSome?_eq_some_iff h).mpr hb] at hf
    cases hf

end Given

end Condition

namespace Query

open Condition

variable {cs ds : List Condition} {q q' : Query} {root : String} {e : Error}

/-! ## The query of a list -/

/-- A query that holds what the conditions of each slot carry, or the default of the slot. -/
structure Holds (q : Query) (cs : List Condition) : Prop where
  root : .root q.root ∈ cs
  depth : Given cs .depth none q.depth
  kind : Given cs .fileType .file q.kind
  path : ∀ f, q.path = some f ↔ .path f ∈ cs
  dirname : ∀ f, q.dirname = some f ↔ .dirname f ∈ cs
  equals : ∀ s, q.basename.equals = some s ↔ .basename (.equals s) ∈ cs
  differs : ∀ s, q.basename.differs = some s ↔ .basename (.differs s) ∈ cs
  pattern : ∀ p, q.basename.pattern = some p ↔ .basename (.pattern p) ∈ cs
  fsType : ∀ s, q.fsType = some s ↔ .fsType s ∈ cs
  followLinks : Given cs .followLinks false q.followLinks
  xdev : Given cs .xdev false q.xdev

theorem Holds.congr (h : ∀ c, c ∈ cs ↔ c ∈ ds) (hq : q.Holds cs) : q.Holds ds where
  root := (h _).mp hq.root
  depth := hq.depth.congr h
  kind := hq.kind.congr h
  path f := (hq.path f).trans (h _)
  dirname f := (hq.dirname f).trans (h _)
  equals s := (hq.equals s).trans (h _)
  differs s := (hq.differs s).trans (h _)
  pattern p := (hq.pattern p).trans (h _)
  fsType s := (hq.fsType s).trans (h _)
  followLinks := hq.followLinks.congr h
  xdev := hq.xdev.congr h

/-- Conditions that agree leave no choice. -/
theorem Holds.unique (ha : Agree cs) (h : q.Holds cs) (h' : q'.Holds cs) : q = q' := by
  have hname : q.basename = q'.basename := by
    have h1 := Option.ext fun s => (h.equals s).trans (h'.equals s).symm
    have h2 := Option.ext fun s => (h.differs s).trans (h'.differs s).symm
    have h3 := Option.ext fun p => (h.pattern p).trans (h'.pattern p).symm
    rcases q with ⟨_, _, _, _, _, ⟨_, _, _⟩, _, _, _⟩
    rcases q' with ⟨_, _, _, _, _, ⟨_, _, _⟩, _, _, _⟩
    cases h1
    cases h2
    cases h3
    rfl
  have hroot := isSlot_root.eq_of_mem ha h.root h'.root
  have hdepth := h.depth.unique isSlot_depth ha h'.depth
  have hkind := h.kind.unique isSlot_kind ha h'.kind
  have hpath := Option.ext fun f => (h.path f).trans (h'.path f).symm
  have hdirname := Option.ext fun f => (h.dirname f).trans (h'.dirname f).symm
  have hfsType := Option.ext fun s => (h.fsType s).trans (h'.fsType s).symm
  have hlinks := h.followLinks.unique isSlot_followLinks ha h'.followLinks
  have hxdev := h.xdev.unique isSlot_xdev ha h'.xdev
  cases q
  cases q'
  simp only at hroot hdepth hkind hpath hdirname hname hfsType hlinks hxdev
  subst hroot hdepth hkind hpath hdirname hname hfsType hlinks hxdev
  rfl

/-- What is read from the slots of a list, with the given root. -/
def assemble (cs : List Condition) (root : String) : Query where
  root
  depth := (cs.findSome? depth?).getD none
  kind := (cs.findSome? kind?).getD .file
  path := cs.findSome? path?
  dirname := cs.findSome? dirname?
  basename :=
    { equals := cs.findSome? equals?
      differs := cs.findSome? differs?
      pattern := cs.findSome? namePattern? }
  fsType := cs.findSome? fsType?
  followLinks := (cs.findSome? followLinks?).getD false
  xdev := (cs.findSome? xdev?).getD false

theorem holds_assemble (ha : Agree cs) (hr : .root root ∈ cs) : (assemble cs root).Holds cs where
  root := hr
  depth := given_getD isSlot_depth ha
  kind := given_getD isSlot_kind ha
  path _ := isSlot_path.findSome?_eq_some_iff ha
  dirname _ := isSlot_dirname.findSome?_eq_some_iff ha
  equals _ := isSlot_equals.findSome?_eq_some_iff ha
  differs _ := isSlot_differs.findSome?_eq_some_iff ha
  pattern _ := isSlot_namePattern.findSome?_eq_some_iff ha
  fsType _ := isSlot_fsType.findSome?_eq_some_iff ha
  followLinks := given_getD isSlot_followLinks ha
  xdev := given_getD isSlot_xdev ha

/-- A list that makes a query: it has a root, its conditions agree, and its depth is in range. -/
structure IsQuery (cs : List Condition) : Prop where
  root : ∃ s, .root s ∈ cs ∧ s ≠ ""
  agree : Agree cs
  depth : ∀ n, .depth (some n) ∈ cs → n < UInt32.size

theorem IsQuery.congr (h : ∀ c, c ∈ cs ↔ c ∈ ds) (hq : IsQuery cs) : IsQuery ds where
  root := hq.root.imp fun _ hs => ⟨(h _).mp hs.1, hs.2⟩
  agree := hq.agree.congr h
  depth n hn := hq.depth n ((h _).mpr hn)

/-- A limit of depth is read from agreeing conditions as it stands, unless it is out of range. -/
theorem depthOf_getD (ha : Agree cs) :
    ((∀ n, .depth (some n) ∈ cs → n < UInt32.size) ∧
      depthOf ((cs.findSome? depth?).getD none) = .ok ((cs.findSome? depth?).getD none)) ∨
    ((∃ n, .depth (some n) ∈ cs ∧ ¬n < UInt32.size) ∧
      ∃ m, depthOf ((cs.findSome? depth?).getD none) = .error (.invalidArgument m)) := by
  have hg : Given cs .depth none ((cs.findSome? depth?).getD none) := given_getD isSlot_depth ha
  cases hd : (cs.findSome? depth?).getD none with
  | none =>
    rw [hd] at hg
    refine Or.inl ⟨fun n hn => ?_, rfl⟩
    cases hg.eq_of_mem isSlot_depth ha hn
  | some n =>
    rw [hd] at hg
    have hn : .depth (some n) ∈ cs := by
      rcases hg with hn | ⟨-, hn⟩
      · exact hn
      · cases hn
    unfold depthOf
    by_cases hlt : n < UInt32.size
    · refine Or.inl ⟨fun k hk => ?_, if_pos hlt⟩
      cases isSlot_depth.eq_of_mem ha hn hk
      exact hlt
    · exact Or.inr ⟨⟨n, hn, hlt⟩, _, if_neg hlt⟩

/-- A list that makes a query is assembled; any other is refused for its arguments. -/
theorem ofConditions_cases (cs : List Condition) :
    (IsQuery cs ∧ ∃ root, .root root ∈ cs ∧ ofConditions cs = .ok (assemble cs root)) ∨
      (¬IsQuery cs ∧ ∃ m, ofConditions cs = .error (.invalidArgument m)) := by
  have hagree : conflict? [] cs = none ↔ Agree cs := conflict?_eq_none_iff (by intro c hc; cases hc)
  unfold ofConditions
  cases hc : conflict? [] cs with
  | some p =>
    refine Or.inr ⟨fun h => ?_, _, rfl⟩
    rw [hagree.mpr h.agree] at hc
    cases hc
  | none =>
    have ha : Agree cs := hagree.mp hc
    cases hr : cs.findSome? root? with
    | none =>
      refine Or.inr ⟨fun h => ?_, _, rfl⟩
      obtain ⟨root, hm, -⟩ := h.root
      rw [(isSlot_root.findSome?_eq_some_iff ha).mpr hm] at hr
      cases hr
    | some root =>
      have hm : .root root ∈ cs := (isSlot_root.findSome?_eq_some_iff ha).mp hr
      by_cases he : root.isEmpty
      · refine Or.inr ⟨fun h => ?_, _, if_pos he⟩
        obtain ⟨root', hm', hne⟩ := h.root
        rw [isSlot_root.eq_of_mem ha hm' hm] at hne
        exact hne (String.isEmpty_iff.mp he)
      · simp only [if_neg he]
        have hne : root ≠ "" := fun h => he (String.isEmpty_iff.mpr h)
        rcases depthOf_getD ha with ⟨hrange, hd⟩ | ⟨⟨n, hn, hbig⟩, m, hd⟩
        · rw [hd]
          exact Or.inl ⟨⟨⟨root, hm, hne⟩, ha, hrange⟩, root, hm, rfl⟩
        · rw [hd]
          exact Or.inr ⟨fun h => hbig (h.depth n hn), m, rfl⟩

theorem ofConditions_eq_ok_iff : ofConditions cs = .ok q ↔ IsQuery cs ∧ q.Holds cs := by
  rcases ofConditions_cases cs with ⟨hq, root, hr, h⟩ | ⟨hn, m, h⟩
  · have hholds := holds_assemble hq.agree hr
    rw [h]
    constructor
    · intro he
      cases he
      exact ⟨hq, hholds⟩
    · intro hq'
      rw [hholds.unique hq.agree hq'.2]
  · rw [h]
    refine iff_of_false (fun he => by cases he) fun hq => hn hq.1

/-! ## Lists with the same conditions -/

/-- Two outcomes that are equal, or are both a refusal of an argument. -/
inductive Alike {α : Type} : Except Error α → Except Error α → Prop where
  | same (r : Except Error α) : Alike r r
  | invalid (m m' : String) : Alike (.error (.invalidArgument m)) (.error (.invalidArgument m'))

theorem Alike.bind {α β : Type} {r r' : Except Error α} (h : Alike r r')
    (f : α → Except Error β) : Alike (r.bind f) (r'.bind f) := by
  cases h with
  | same r => exact .same _
  | invalid m m' => exact .invalid m m'

theorem ofConditions_alike (h : ∀ c, c ∈ cs ↔ c ∈ ds) :
    Alike (ofConditions cs) (ofConditions ds) := by
  rcases ofConditions_cases cs with ⟨hq, root, hr, hcs⟩ | ⟨hn, m, hcs⟩
  · have hholds := holds_assemble hq.agree hr
    have hds := ofConditions_eq_ok_iff.mpr ⟨hq.congr h, hholds.congr h⟩
    rw [hcs, hds]
    exact .same _
  · rcases ofConditions_cases ds with ⟨hq, -⟩ | ⟨-, m', hds⟩
    · exact absurd (hq.congr fun c => (h c).symm) hn
    · rw [hcs, hds]
      exact .invalid m m'

/--
**A list of conditions is worth the set of them.** It makes a query exactly if there is a root that
is not empty, the conditions of each slot carry one value, and the depth is below 2³²; nothing else
is ever the matter with conditions that have been made. The query then holds what each slot carries,
or its default. So lists with the same conditions, in any order and repeated at will, get the same
command and key on every host, or are both refused for the same kind of reason.
-/
theorem extraction_depends_on_the_set (cs : List Condition) :
    ((∃ q, ofConditions cs = .ok q) ↔
      (∃ s, .root s ∈ cs ∧ s ≠ "") ∧
        (∀ c ∈ cs, ∀ d ∈ cs, c.slot = d.slot → c.value = d.value) ∧
        ∀ n, .depth (some n) ∈ cs → n < UInt32.size) ∧
    (∀ q, ofConditions cs = .ok q → q.Holds cs) ∧
    ∀ ds, (∀ c, c ∈ cs ↔ c ∈ ds) → ∀ p : Platform,
      Alike (p.compileConditions cs) (p.compileConditions ds) := by
  refine ⟨⟨?_, ?_⟩, fun q hq => (ofConditions_eq_ok_iff.mp hq).2, ?_⟩
  · rintro ⟨q, hq⟩
    obtain ⟨hroot, hagree, hdepth⟩ := (ofConditions_eq_ok_iff.mp hq).1
    exact ⟨hroot, hagree, hdepth⟩
  · rintro ⟨⟨root, hm, hne⟩, hagree, hdepth⟩
    have hq : IsQuery cs := ⟨⟨root, hm, hne⟩, hagree, hdepth⟩
    exact ⟨_, ofConditions_eq_ok_iff.mpr ⟨hq, holds_assemble hagree hm⟩⟩
  · intro ds h p
    exact (ofConditions_alike h).bind p.compile

/-- A search with a root and a depth that are given twice. -/
def wordy : List Condition :=
  [.depth (some 2), .root "/opt", .basename (.equals "a"), .root "/opt", .depth (some 2)]

/-- The same search without the repetitions, in another order. -/
def terse : List Condition := [.root "/opt", .basename (.equals "a"), .depth (some 2)]

theorem repetitions_are_lost :
    (∀ c, c ∈ wordy ↔ c ∈ terse) ∧ (∃ q, ofConditions wordy = .ok q ∧ q.Holds terse) ∧
      Alike (Platform.windows.compileConditions wordy) (Platform.windows.compileConditions terse) := by
  have hsame : ∀ c, c ∈ wordy ↔ c ∈ terse := by
    intro c
    simp only [wordy, terse, List.mem_cons, List.not_mem_nil, or_false]
    tauto
  obtain ⟨hiff, hholds, halike⟩ := extraction_depends_on_the_set wordy
  have hdepth : ∀ n, .depth (some n) ∈ wordy → n < UInt32.size := by
    intro n hn
    obtain rfl : n = 2 := by simpa [wordy] using hn
    decide
  obtain ⟨q, hq⟩ := hiff.mpr ⟨⟨"/opt", by decide, by decide⟩, by decide, hdepth⟩
  exact ⟨hsame, ⟨q, hq, (hholds q hq).congr hsame⟩, halike terse hsame _⟩

end Query
end RemoteSearch

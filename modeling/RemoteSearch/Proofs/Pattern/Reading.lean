import Mathlib.Data.List.ModifyLast
import RemoteSearch.Pattern.Parser
import RemoteSearch.Proofs.Result

/-!
# Patterns with something in front

A pattern is read from left to right, and what stands in front of it is the beginning of its first
alternative: the bars of the pattern bind weaker than anything in front of them. `State.after` puts
items in front of everything that a state has read, and a round of the reader does not notice them
(`stepOn_after`), so the whole reader does not either (`loop_after`). The one exception is a
repetition that comes first: it has nothing to repeat unless something stands in front of it.

For a text that reads as a pattern this gives the alternatives of the pattern with something in
front: the first one begins with it, and the others stay as they are (`alternativesFrom_after`).
-/

namespace RemoteSearch.Pattern.Parser

variable {g : Grammar} {s : State} {pre : List Item}

/-! ## States with something in front -/

/-- The level with items, the last first, in front of its first alternative. -/
def Level.after (pre : List Item) (l : Level) : Level :=
  match l.alts with
  | [] => { l with items := l.items ++ pre }
  | alts => { l with alts := alts.modifyLast (· ++ pre) }

/-- The group with items in front of the first alternative around it. -/
def OpenGroup.after (pre : List Item) (o : OpenGroup) : OpenGroup :=
  { o with outer := o.outer.after pre }

/-- The state with items, the last first, in front of everything that is read. -/
def State.after (pre : List Item) (s : State) : State :=
  match s.groups with
  | [] => { s with level := s.level.after pre }
  | groups => { s with groups := groups.modifyLast (·.after pre) }

/-- Whether nothing is read so far, so that there is nothing to repeat. -/
def State.IsBare (s : State) : Prop := s.groups = [] ∧ s.level.alts = [] ∧ s.level.items = []

/-- Whether a character begins a repetition. -/
def isRepetition (c : Char) : Bool := ['?', '*', '+', '\x7b'].contains c

theorem modifyLast_cons_cons {α : Type} (f : α → α) (a b : α) (l : List α) :
    (a :: b :: l).modifyLast f = a :: (b :: l).modifyLast f :=
  List.modifyLast_append_of_right_ne_nil f [a] (b :: l) (List.cons_ne_nil b l)

theorem modifyLast_single {α : Type} (f : α → α) (a : α) : [a].modifyLast f = [f a] :=
  List.modifyLast_concat f a []

@[simp] theorem flags_after : (s.after pre).flags = s.flags := by unfold State.after; split <;> rfl

@[simp] theorem names_after : (s.after pre).names = s.names := by unfold State.after; split <;> rfl

@[simp] theorem kept_after : (s.after pre).kept = s.kept := by unfold State.after; split <;> rfl

/-! ## Single moves -/

theorem Level.after_mk_items (l : Level) (i : Item) :
    ({ l with items := i :: l.items } : Level).after pre =
      { l.after pre with items := i :: (l.after pre).items } := by
  unfold Level.after
  split <;> simp_all

theorem push_after (n : Node) (depth : Nat) :
    (s.after pre).push n depth = (s.push n depth).after pre := by
  obtain ⟨flags, level, groups, names, kept⟩ := s
  cases groups with
  | nil => simp [State.after, State.push, Level.after_mk_items]
  | cons o groups => simp [State.after, State.push]

theorem switch_after (f : Flags) : (s.after pre).switch f = (s.switch f).after pre := by
  obtain ⟨flags, level, groups, names, kept⟩ := s
  cases groups with
  | nil => simp [State.after, State.switch, Level.after_mk_items]
  | cons o groups => simp [State.after, State.switch]

theorem bar_after : (s.after pre).bar = s.bar.after pre := by
  obtain ⟨flags, ⟨items, alts⟩, groups, names, kept⟩ := s
  cases groups with
  | nil =>
    cases alts with
    | nil => simp [State.after, State.bar, Level.after, modifyLast_single]
    | cons a alts => simp [State.after, State.bar, Level.after, modifyLast_cons_cons]
  | cons o groups => simp [State.after, State.bar]

theorem enter_after (f : Flags) (kind : GroupKind) :
    (s.after pre).enter f kind = (s.enter f kind).after pre := by
  obtain ⟨flags, level, groups, names, kept⟩ := s
  cases groups with
  | nil => simp [State.after, State.enter, OpenGroup.after, modifyLast_single]
  | cons o groups => simp [State.after, State.enter, modifyLast_cons_cons]

theorem after_withNames (names : List (List Char)) :
    ({ s with names := names } : State).after pre = { s.after pre with names := names } := by
  obtain ⟨flags, level, groups, names, kept⟩ := s
  cases groups <;> rfl

theorem after_withKept (kept : Nat) :
    ({ s with kept := kept } : State).after pre = { s.after pre with kept := kept } := by
  obtain ⟨flags, level, groups, names, kept⟩ := s
  cases groups <;> rfl

theorem enterKept_after : (s.after pre).enterKept = s.enterKept.after pre := by
  simp [State.enterKept, enter_after, after_withKept]

theorem closeGroup_after : closeGroup (s.after pre) = (closeGroup s).map (State.after pre) := by
  obtain ⟨flags, level, groups, names, kept⟩ := s
  match groups with
  | [] => rfl
  | [o] =>
    simp [State.after, closeGroup, modifyLast_single, OpenGroup.after, Except.map, State.push,
      Level.after_mk_items]
  | o :: o' :: groups =>
    simp [State.after, closeGroup, modifyLast_cons_cons, Except.map, State.push]

theorem repeatLast_after (h : ¬s.IsBare) (greedy : Bool) (min : Nat) (max : Option Nat) :
    (s.after pre).repeatLast greedy min max =
      (s.repeatLast greedy min max).map (State.after pre) := by
  obtain ⟨flags, ⟨items, alts⟩, groups, names, kept⟩ := s
  match groups, alts, items with
  | [], [], [] => exact absurd ⟨rfl, rfl, rfl⟩ h
  | [], [], none :: items => rfl
  | [], [], some (n, d) :: items => rfl
  | [], a :: alts, [] => rfl
  | [], a :: alts, none :: items => rfl
  | [], a :: alts, some (n, d) :: items => rfl
  | o :: groups, alts, [] => rfl
  | o :: groups, alts, none :: items => rfl
  | o :: groups, alts, some (n, d) :: items => rfl

/-! ## Rounds -/

theorem repetition_after (h : ¬s.IsBare) (min : Nat) (max : Option Nat) (l : List Char) :
    repetition (s.after pre) min max l =
      (repetition s min max l).map (Prod.map (State.after pre) id) := by
  simp only [repetition, repeatLast_after h]
  cases s.repeatLast (!(readTurn l).1) min max <;> rfl

theorem namedGroup_after (l : List Char) :
    namedGroup (s.after pre) l = (namedGroup s l).map (Prod.map (State.after pre) id) := by
  simp only [namedGroup, names_after]
  cases groupName true [] l with
  | none => rfl
  | some x =>
    by_cases hn : s.names.contains x.1 = true
    · simp only [hn]
      rfl
    · simp only [hn, enterKept_after, ← after_withNames]
      rfl

theorem flagGroup_after (l : List Char) :
    flagGroup (s.after pre) l = (flagGroup s l).map (Prod.map (State.after pre) id) := by
  simp only [flagGroup, flags_after]
  cases flagRun s.flags [] true false l with
  | error e => rfl
  | ok x =>
    obtain ⟨f, bare, stop, rest⟩ := x
    by_cases hstop : stop = ':'
    · simp [hstop, bind, Except.bind, Except.map, enter_after]
    · cases bare <;> simp [hstop, bind, Except.bind, Except.map, switch_after]

theorem openGroup_after (l : List Char) :
    openGroup g (s.after pre) l = (openGroup g s l).map (Prod.map (State.after pre) id) := by
  simp only [openGroup, flags_after]
  split
  · rfl
  · rfl
  · rfl
  · by_cases hg : g.lookahead = true
    · simp [hg, Except.map, enter_after]
    · simp [hg, Except.map]
  · exact namedGroup_after _
  · exact namedGroup_after _
  · exact flagGroup_after _
  · simp [Except.map, enterKept_after]

/-- **A round of the reader does not notice what stands in front**, unless it is a repetition and
there is nothing else to repeat. -/
theorem stepOn_after (c : Char) (r : List Char) (h : s.IsBare → isRepetition c = false) :
    stepOn g (s.after pre) c r = (stepOn g s c r).map (Prod.map (State.after pre) id) := by
  simp only [stepOn, flags_after]
  split
  · exact openGroup_after r
  · rw [closeGroup_after]
    cases closeGroup s <;> rfl
  · simp [bar_after, Except.map]
  · cases bracketed s.flags r with
    | error e => rfl
    | ok x => simp [Except.map, bind, Except.bind, push_after]
  · exact repetition_after (mt h (by decide)) 0 (some 1) r
  · exact repetition_after (mt h (by decide)) 0 none r
  · exact repetition_after (mt h (by decide)) 1 none r
  · have hb : ¬s.IsBare := mt h (by decide)
    rw [repeatLast_after hb]
    cases s.repeatLast true 0 none with
    | error e => rfl
    | ok s' =>
      cases counts s.flags r with
      | error e => rfl
      | ok x => exact repetition_after hb x.1 x.2.1 (skip s.flags x.2.2)
  · cases escapeSequence s.flags r with
    | error e => rfl
    | ok x =>
      obtain ⟨e, rest⟩ := x
      cases e with
      | byte n => by_cases hn : n < 0x80 <;> simp [hn, bind, Except.bind, Except.map, push_after]
      | _ => simp [bind, Except.bind, Except.map, push_after]
  · cases dot s.flags with
    | error e => rfl
    | ok x => simp [Except.map, push_after]
  · simp [Except.map, push_after]
  · simp [Except.map, push_after]
  · simp [Except.map, push_after]

/-! ## Reading to the end -/

theorem not_isBare_push (s : State) (n : Node) (depth : Nat) : ¬(s.push n depth).IsBare :=
  fun h => List.cons_ne_nil _ _ h.2.2

theorem not_isBare_switch (s : State) (f : Flags) : ¬(s.switch f).IsBare :=
  fun h => List.cons_ne_nil _ _ h.2.2

theorem not_isBare_bar (s : State) : ¬s.bar.IsBare := fun h => List.cons_ne_nil _ _ h.2.1

theorem not_isBare_enter (s : State) (f : Flags) (kind : GroupKind) : ¬(s.enter f kind).IsBare :=
  fun h => List.cons_ne_nil _ _ h.1

theorem not_isBare_enterKept (s : State) : ¬s.enterKept.IsBare := fun h => List.cons_ne_nil _ _ h.1

theorem not_isBare_of_repeatLast {s' : State} {greedy : Bool} {min : Nat} {max : Option Nat}
    (h : s.repeatLast greedy min max = .ok s') : ¬s'.IsBare := by
  unfold State.repeatLast at h
  split at h
  · cases h
    exact fun hb => List.cons_ne_nil _ _ hb.2.2
  · cases h

theorem not_isBare_of_repetition {x : State × List Char} {min : Nat} {max : Option Nat}
    {l : List Char} (h : repetition s min max l = .ok x) : ¬x.1.IsBare := by
  unfold repetition at h
  obtain ⟨s', hs, rfl⟩ := ok_of_map h
  exact not_isBare_of_repeatLast hs

theorem not_isBare_of_closeGroup {s' : State} (h : closeGroup s = .ok s') : ¬s'.IsBare := by
  unfold closeGroup at h
  split at h
  · cases h
  · cases h
    exact not_isBare_push _ _ _

theorem not_isBare_of_namedGroup {x : State × List Char} {l : List Char}
    (h : namedGroup s l = .ok x) : ¬x.1.IsBare := by
  unfold namedGroup at h
  split at h
  · cases h
  · split at h
    · cases h
    · cases h
      exact not_isBare_enterKept s

theorem not_isBare_of_flagGroup {x : State × List Char} {l : List Char}
    (h : flagGroup s l = .ok x) : ¬x.1.IsBare := by
  unfold flagGroup at h
  obtain ⟨⟨f, bare, stop, rest⟩, -, h⟩ := ok_of_bind h
  dsimp only at h
  split at h
  · cases h
    exact not_isBare_enter s _ _
  · split at h
    · cases h
    · cases h
      exact not_isBare_switch s _

theorem not_isBare_of_openGroup {x : State × List Char} {l : List Char}
    (h : openGroup g s l = .ok x) : ¬x.1.IsBare := by
  unfold openGroup at h
  split at h
  · cases h
  · cases h
  · cases h
  · split at h
    · cases h
      exact not_isBare_enter s _ _
    · cases h
  · exact not_isBare_of_namedGroup h
  · exact not_isBare_of_namedGroup h
  · exact not_isBare_of_flagGroup h
  · cases h
    exact not_isBare_enterKept s

/-- After a round there is something that can be repeated, or that shows what cannot. -/
theorem not_isBare_of_stepOn {x : State × List Char} {c : Char} {r : List Char}
    (h : stepOn g s c r = .ok x) : ¬x.1.IsBare := by
  unfold stepOn at h
  dsimp only at h
  split at h
  · exact not_isBare_of_openGroup h
  · obtain ⟨s', hs, rfl⟩ := ok_of_map h
    exact not_isBare_of_closeGroup hs
  · cases h
    exact not_isBare_bar s
  · obtain ⟨⟨cls, rest⟩, -, h⟩ := ok_of_bind h
    cases h
    exact not_isBare_push s _ _
  · exact not_isBare_of_repetition h
  · exact not_isBare_of_repetition h
  · exact not_isBare_of_repetition h
  · obtain ⟨s', -, h⟩ := ok_of_bind h
    obtain ⟨⟨min, max, rest⟩, -, h⟩ := ok_of_bind h
    exact not_isBare_of_repetition h
  · obtain ⟨⟨e, rest⟩, -, h⟩ := ok_of_bind h
    dsimp only at h
    split at h
    · cases h
      exact not_isBare_push s _ _
    · split at h
      · cases h
        exact not_isBare_push s _ _
      · cases h
    · cases h
      exact not_isBare_push s _ _
    · cases h
      exact not_isBare_push s _ _
  · obtain ⟨n, -, rfl⟩ := ok_of_map h
    exact not_isBare_push s _ _
  · cases h
    exact not_isBare_push s _ _
  · cases h
    exact not_isBare_push s _ _
  · cases h
    exact not_isBare_push s _ _

/-- A repetition that comes first is rejected. -/
theorem stepOn_of_isBare (h : s.IsBare) {c : Char} (hc : isRepetition c = true) (r : List Char) :
    stepOn g s c r = .error .repetitionMissing := by
  have hfail : ∀ greedy min max, s.repeatLast greedy min max = .error .repetitionMissing := by
    simp [State.repeatLast, h.2.2]
  simp only [isRepetition, List.contains_eq_mem, List.mem_cons, List.not_mem_nil, or_false,
    decide_eq_true_eq] at hc
  rcases hc with rfl | rfl | rfl | rfl <;>
    simp [stepOn, repetition, hfail, Except.map, bind, Except.bind]

/-- **The reader does not notice what stands in front.** -/
theorem loop_after (l : List Char)
    (h : s.IsBare → ∀ c ∈ (skip s.flags l).head?, isRepetition c = false) :
    loop g (s.after pre) l = (loop g s l).map (State.after pre) := by
  induction hn : l.length using Nat.strongRecOn generalizing s l with
  | ind n ih =>
    rw [loop, loop, flags_after]
    cases hs : skip s.flags l with
    | nil => rfl
    | cons c r =>
      have hc : s.IsBare → isRepetition c = false := fun hb => h hb c (by simp [hs])
      simp only [stepOn_after c r hc]
      cases hstep : stepOn g s c r with
      | error e => rfl
      | ok x =>
        obtain ⟨s', rest⟩ := x
        by_cases hlt : rest.length < l.length
        · have hgo := ih rest.length (hn ▸ hlt) rest
            (fun hb => absurd hb (not_isBare_of_stepOn hstep)) rfl
          simp [Except.map, bind, Except.bind, hlt, hgo]
        · simp [Except.map, bind, Except.bind, hlt, throw, throwThe, MonadExceptOf.throw]

/-! ## Alternatives -/

theorem Level.alternatives_after (pre : List Item) (l : Level) :
    ∃ items others, l.alternatives = ofItems items :: others ∧
      (l.after pre).alternatives = ofItems (items ++ pre) :: others := by
  obtain ⟨items, alts⟩ := l
  rcases List.eq_nil_or_concat alts with rfl | ⟨before, first, rfl⟩
  · exact ⟨items, [], rfl, rfl⟩
  · refine ⟨first, (items :: before).reverse.map ofItems, by simp [Level.alternatives], ?_⟩
    have hafter : (Level.mk items (before ++ [first])).after pre =
        ⟨items, before ++ [first ++ pre]⟩ := by
      unfold Level.after
      split
      · rename_i h
        simp at h
      · simp [List.modifyLast_concat]
    simp [hafter, Level.alternatives]

theorem groups_after_eq_nil_iff : (s.after pre).groups = [] ↔ s.groups = [] := by
  obtain ⟨flags, level, groups, names, kept⟩ := s
  match groups with
  | [] => simp [State.after]
  | [o] => simp [State.after, modifyLast_single]
  | o :: o' :: groups => simp [State.after, modifyLast_cons_cons]

/--
**A pattern with something in front.** Either neither is a pattern, and for the same cause, or the
first alternative has in addition the items in front, and the others are the same.
-/
theorem alternativesFrom_after (pre : List Item) (l : List Char)
    (h : s.IsBare → ∀ c ∈ (skip s.flags l).head?, isRepetition c = false) :
    (∃ e, alternativesFrom g s l = .error e ∧ alternativesFrom g (s.after pre) l = .error e) ∨
      ∃ items others, alternativesFrom g s l = .ok (ofItems items :: others) ∧
        alternativesFrom g (s.after pre) l = .ok (ofItems (items ++ pre) :: others) := by
  unfold alternativesFrom
  rw [loop_after l h]
  cases loop g s l with
  | error e => exact .inl ⟨e, rfl, rfl⟩
  | ok s' =>
    by_cases hg : s'.groups = []
    · obtain ⟨items, others, hl, hafter⟩ := s'.level.alternatives_after pre
      have hlevel : (s'.after pre).level = s'.level.after pre := by simp [State.after, hg]
      refine .inr ⟨items, others, ?_, ?_⟩
      · simp [bind, Except.bind, hg, hl, pure, Except.pure]
      · have hg' : (s'.after pre).groups = [] := groups_after_eq_nil_iff.mpr hg
        simp [bind, Except.bind, Except.map, hg', hlevel, hafter, pure, Except.pure]
    · have hg' : (s'.after pre).groups ≠ [] := mt groups_after_eq_nil_iff.mp hg
      refine .inl ⟨.groupUnclosed, ?_, ?_⟩
      · simp [bind, Except.bind, hg, throw, throwThe, MonadExceptOf.throw]
      · simp [bind, Except.bind, Except.map, hg', throw, throwThe, MonadExceptOf.throw]

/-! ## Characters that stand for themselves -/

/-- Nodes that nest nothing as items, the last first. -/
def leaves (l : List Node) : List Item := (l.map fun n => some (n, 0)).reverse

/-- The nodes among items, of which the last stands first. -/
def nodesOf (items : List Item) : List Node := items.reverse.filterMap (·.map (·.1))

theorem nodesOf_append (items pre : List Item) :
    nodesOf (items ++ pre) = nodesOf pre ++ nodesOf items := by
  simp [nodesOf]

theorem nodesOf_leaves (l : List Node) : nodesOf (leaves l) = l := by
  induction l with
  | nil => rfl
  | cons n l ih =>
    have hleaves : leaves (n :: l) = leaves l ++ [some (n, 0)] := by simp [leaves]
    rw [hleaves, nodesOf_append, ih]
    rfl

theorem ofItems_fst (items : List Item) : (ofItems items).1 = .ofSeq (nodesOf items) := rfl

/-- The state with nodes that nest nothing pushed one after another. -/
def State.pushAll (s : State) (l : List Node) : State :=
  l.foldl (fun s n => s.push n 0) s

@[simp] theorem flags_pushAll (s : State) (l : List Node) : (s.pushAll l).flags = s.flags := by
  induction l generalizing s with
  | nil => rfl
  | cons n l ih => exact ih (s.push n 0)

theorem pushAll_eq (s : State) (l : List Node) :
    s.pushAll l = { s with level := { s.level with items := leaves l ++ s.level.items } } := by
  induction l generalizing s with
  | nil => rfl
  | cons n l ih =>
    have hpush : s.pushAll (n :: l) = (s.push n 0).pushAll l := rfl
    rw [hpush, ih]
    simp [State.push, leaves]

/-- Nodes at the start are what stands in front of everything else. -/
theorem pushAll_start (l : List Node) :
    (start g).pushAll l = (start g).after (leaves l) := by
  rw [pushAll_eq]
  simp [start, State.after, Level.after]

/-- A group of nodes is one item. -/
theorem closeGroup_enter (s : State) (f : Flags) (kind : GroupKind) (l : List Node) :
    ∃ depth, closeGroup ((s.enter f kind).pushAll l) =
      .ok (s.push (kind.apply (.ofSeq l)) depth) := by
  refine ⟨(either [ofItems (leaves l)]).2 + 1, ?_⟩
  rw [pushAll_eq]
  simp [closeGroup, State.enter, Level.alternatives, either, Node.ofAlts, State.push, ofItems_fst,
    nodesOf_leaves]

/-- A round on the next character, where blanks count. -/
theorem loop_of_stepOn {s' : State} {c : Char} {r rest : List Char} (hv : s.flags.verbose = false)
    (hstep : stepOn g s c r = .ok (s', rest)) (hle : rest.length ≤ r.length) :
    loop g s (c :: r) = loop g s' rest := by
  have hskip : skip s.flags (c :: r) = c :: r := by simp [skip, hv]
  have hlt : rest.length < (c :: r).length := Nat.lt_succ_of_le hle
  rw [loop, hskip]
  simp only [hstep, bind, Except.bind, hlt, if_true]

/-- What is read to the end is read in the next round. -/
theorem exists_stepOn_of_loop {s' : State} {c : Char} {r : List Char} (hv : s.flags.verbose = false)
    (h : loop g s (c :: r) = .ok s') : ∃ x, stepOn g s c r = .ok x := by
  have hskip : skip s.flags (c :: r) = c :: r := by simp [skip, hv]
  rw [loop, hskip] at h
  obtain ⟨x, hx, -⟩ := ok_of_bind h
  exact ⟨x, hx⟩

/-- Characters that are special where an item begins. -/
def isSpecial (c : Char) : Bool := "()|[?*+\x7b\\.^$".toList.contains c

theorem stepOn_plain {c : Char} (hc : isSpecial c = false) (r : List Char) :
    stepOn g s c r = .ok (s.push (literal s.flags c) 0, r) := by
  unfold stepOn
  split <;> first | rfl | exact absurd hc (by decide)

/-- What an escape other than a letter or a digit stands for. -/
theorem escapeSequence_sign (f : Flags) {c : Char} (hc : c.isAlphanum = false) (r : List Char) :
    escapeSequence f (c :: r) =
      if c = '<' then .ok (.anchor (.wordStart !f.unicode), r)
      else if c = '>' then .ok (.anchor (.wordEnd !f.unicode), r)
      else if isMeta c ∨ c.toNat < 0x80 then .ok (.char c, r)
      else .error .escape := by
  have hne : ∀ d : Char, d.isAlphanum = true → c ≠ d := by
    rintro d hd rfl
    exact absurd hd (by simp [hc])
  have hdigit : ¬('0' ≤ c ∧ c ≤ '9') := by
    intro h
    have hd : c.isDigit = true := by
      simp only [Char.isDigit, Bool.and_eq_true, decide_eq_true_eq]
      exact h
    simp [Char.isAlphanum, hd] at hc
  have hx : ¬(c = 'x' ∨ c = 'u' ∨ c = 'U') := by simp [hne]
  have hp : ¬(c = 'p' ∨ c = 'P') := by simp [hne]
  rw [escapeSequence, if_neg hdigit, if_neg hx, if_neg hp]
  by_cases hm : isMeta c = true
  · have hlt : c ≠ '<' := by rintro rfl; exact absurd hm (by decide)
    have hgt : c ≠ '>' := by rintro rfl; exact absurd hm (by decide)
    simp [hm, hlt, hgt]
  · rw [if_neg hm]
    dsimp only
    split
    all_goals first | exact absurd rfl (hne _ (by decide)) | skip
    · rfl
    · rfl
    · simp_all

theorem isAlphanum_of_isMeta {c : Char} (hc : isMeta c = true) : c.isAlphanum = false := by
  have hall : "\\.+*?()|[]\x7b\x7d^$#&-~".toList.all (!·.isAlphanum) = true := by decide
  simpa using List.all_eq_true.mp hall c (by simpa [isMeta] using hc)

theorem isMeta_of_isSpecial {c : Char} (hc : isSpecial c = true) : isMeta c = true := by
  have hall : "()|[?*+\x7b\\.^$".toList.all isMeta = true := by decide
  exact List.all_eq_true.mp hall c (by simpa [isSpecial] using hc)

theorem stepOn_escaped {c : Char} (hc : isMeta c = true) (r : List Char) :
    stepOn g s '\\' (c :: r) = .ok (s.push (literal s.flags c) 0, r) := by
  have hlt : c ≠ '<' := by rintro rfl; exact absurd hc (by decide)
  have hgt : c ≠ '>' := by rintro rfl; exact absurd hc (by decide)
  have hread := escapeSequence_sign s.flags (isAlphanum_of_isMeta hc) r
  simp [stepOn, hread, hlt, hgt, hc, bind, Except.bind]

/-- **An escaped text is read as its characters.** -/
theorem loop_escapeText (hv : s.flags.verbose = false) (a l : List Char) :
    loop g s (escapeText a ++ l) = loop g (s.pushAll (a.map (literal s.flags))) l := by
  induction a generalizing s with
  | nil => rfl
  | cons c a ih =>
    have hrest := ih (s := s.push (literal s.flags c) 0) hv
    by_cases hc : isMeta c = true
    · have hstep := stepOn_escaped (g := g) (s := s) hc (escapeText a ++ l)
      have htext : escapeText (c :: a) ++ l = '\\' :: c :: (escapeText a ++ l) := by
        simp [escapeText, hc]
      rw [htext, loop_of_stepOn hv hstep (by simp), hrest]
      rfl
    · have hs : isSpecial c = false := Bool.eq_false_iff.mpr (mt isMeta_of_isSpecial hc)
      have hstep := stepOn_plain (g := g) (s := s) hs (escapeText a ++ l)
      have htext : escapeText (c :: a) ++ l = c :: (escapeText a ++ l) := by
        simp [escapeText, hc]
      rw [htext, loop_of_stepOn hv hstep (Nat.le_refl _), hrest]
      rfl

end RemoteSearch.Pattern.Parser

import RemoteSearch.Machine.Find
import RemoteSearch.Proofs.Path
import RemoteSearch.Proofs.Unix.Safety

/-!
# Operands of commands

A text that stays one word may still be read as an option by the tool that it is handed to, as tools
do with words that begin with a dash. Where `find` begins, what `grep` looks for and what `ls` lists
are operands, and nothing stands before them that would keep a tool from reading options.

* `operands` are the words of user texts in these places, each with the words of its command that
  stand before it.
* `operands_layout`: which they are in the command for a query.
* `operands_kept_iff`: they are taken for operands exactly if no text begins with a dash.
-/

namespace RemoteSearch.Unix

open Shell

/-! ## Operands -/

/-- Whether the text for a place is an operand of its tool. -/
def Hole.isOperand : Hole → Bool
  | .root | .path | .dirname => true
  | _ => false

theorem Hole.isOperand_iff {h : Hole} :
    h.isOperand = true ↔ h = .root ∨ h = .path ∨ h = .dirname := by
  cases h <;> simp [isOperand]

/-- The operands in a list of places and tokens, after the words that the command begins with. -/
def operands (before : List Token) : List (Slot × Token) → List (List Token × Token)
  | [] => []
  | (.token (.operator _), _) :: r => operands [] r
  | (.token (.word _), t) :: r => operands (before ++ [t]) r
  | (.text h, t) :: r =>
    (if h.isOperand then [(before, t)] else []) ++ operands (before ++ [t]) r

/-- Whether the words of a command keep its tool from taking the next word for an option. -/
def IsGuarded (before : List Token) : Prop :=
  bareWord "--".toList ∈ before ∨
    before.head? = some (bareWord "grep".toList) ∧ bareWord "-e".toList ∈ before

instance (before : List Token) : Decidable (IsGuarded before) :=
  inferInstanceAs (Decidable (_ ∨ _))

/-- Whether a word is taken for an operand: it begins with no dash, or it is guarded. -/
def IsKept (x : List Token × Token) : Prop :=
  IsGuarded x.1 ∨ ∀ a, x.2.text? = some a → a.head? ≠ some '-'

variable {before : List Token} {f : Hole → Option String} {h : Hole} {l l' : List Slot}
  {r r' : List (List Token × Token)} {d : Dialect}

theorem isKept_argument_iff {text : String} (hb : ¬IsGuarded before) :
    IsKept (before, argument text.toList) ↔ text.toList.head? ≠ some '-' := by
  simp [IsKept, hb]

theorem exists_operands_append (before : List Token) (x y : List (Slot × Token)) :
    ∃ before', operands before (x ++ y) = operands before x ++ operands before' y := by
  fun_induction operands before x with
  | case1 before => exact ⟨before, rfl⟩
  | case2 before o t x ih => exact ih
  | case3 before w t x ih => exact ih
  | case4 before h t x ih =>
    obtain ⟨before', he⟩ := ih
    exact ⟨before', by rw [List.cons_append, operands, he, List.append_assoc]⟩

/-- Places with texts in them that have some operands, whatever stands before them. -/
def Yields (f : Hole → Option String) (l : List Slot) (r : List (List Token × Token)) : Prop :=
  ∀ before, operands before (l.map fun x => (x, x.fill f)) = r

theorem Yields.append (hl : Yields f l r) (hl' : Yields f l' r') :
    Yields f (l ++ l') (r ++ r') := by
  intro before
  obtain ⟨before', he⟩ := exists_operands_append before (l.map fun x => (x, x.fill f))
    (l'.map fun x => (x, x.fill f))
  rw [List.map_append, he, hl, hl']

/-- Places for other texts have no operand. -/
theorem yields_nil (hl : ∀ h, h.isOperand = true → .text h ∉ l) : Yields f l [] := by
  intro before
  induction l generalizing before with
  | nil => rfl
  | cons x l ih =>
    have hrest : ∀ before, operands before (l.map fun x => (x, x.fill f)) = [] :=
      ih fun h hh hmem => hl h hh (List.mem_cons_of_mem x hmem)
    match x with
    | .token (.operator o) => exact hrest []
    | .token (.word w) => exact hrest _
    | .text h =>
      have hh : h.isOperand = false := Bool.eq_false_iff.mpr fun ho => hl h ho List.mem_cons_self
      rw [List.map_cons, operands, hh, hrest]
      rfl

/-! ## Operands of a layout -/

/-- An expression comes behind `grep` and its mode, whatever steps there are before and after. -/
theorem yields_grepLayout (mode : String) (hh : h.isOperand = true)
    (hl : ∀ h, h.isOperand = true → .text h ∉ l) (hl' : ∀ h, h.isOperand = true → .text h ∉ l') :
    Yields f (l ++ (grepLayout mode h ++ l'))
      [([bareWord "grep".toList, bareWord mode.toList], argument ((f h).getD "").toList)] := by
  have hgrep : Yields f (grepLayout mode h)
      [([bareWord "grep".toList, bareWord mode.toList], argument ((f h).getD "").toList)] := by
    intro before
    simp [grepLayout, bar, word, bareWord, operands, Slot.fill, hh]
  exact (yields_nil hl).append (hgrep.append (yields_nil hl'))

/-- The words of a search before the place where it begins. -/
def startWords (s : Shape) : List Token :=
  bareWord "find".toList :: if s.followLinks then [bareWord "-L".toList] else []

/-- A `find` at the beginning of a command has the root for its operand. -/
theorem operands_findLayout (s : Shape) (limited : Bool) :
    operands [] ((findLayout s (.text .root) limited).map fun x => (x, x.fill f)) =
      [(startWords s, argument ((f .root).getD "").toList)] := by
  obtain ⟨arm, followLinks, xdev, hasDepth, hasFsType, hasEquals, hasDiffers, hasPattern⟩ := s
  -- which flags there are decides about the places only
  cases followLinks <;> cases limited <;> cases xdev <;> cases hasFsType <;> rfl

/-- What follows the search adds its own operands to the root. -/
theorem operands_findLayout_append (s : Shape) (limited : Bool) (hl : Yields f l r) :
    operands [] ((findLayout s (.text .root) limited ++ l).map fun x => (x, x.fill f)) =
      (startWords s, argument ((f .root).getD "").toList) :: r := by
  obtain ⟨before, he⟩ := exists_operands_append []
    ((findLayout s (.text .root) limited).map fun x => (x, x.fill f))
    (l.map fun x => (x, x.fill f))
  rw [List.map_append, he, operands_findLayout, hl]
  rfl

/-- The operands of the filter for the constraint that governs. -/
def filterOperands (f : Hole → Option String) : Arm → List (List Token × Token)
  | .path literal =>
    [([bareWord "grep".toList, bareWord (if literal then "-Fx" else "-E").toList],
      argument ((f .path).getD "").toList)]
  | .directories | .nested =>
    [([bareWord "grep".toList, bareWord "-E".toList], argument ((f .dirname).getD "").toList)]
  | .names => []

/-- **The operands of a command** are the root and what `grep` looks for, if there is a `grep`. -/
theorem operands_layout (d : Dialect) (s : Shape) :
    operands [] ((layout d s).map fun x => (x, x.fill f)) =
      (startWords s, argument ((f .root).getD "").toList) :: filterOperands f s.arm := by
  have hkind : ∀ k, k = Slot.text .kind ∨ k = word "d" →
      ∀ h, h.isOperand = true → Slot.text h ∉ [word "-type", k] := by
    rintro _ (rfl | rfl) h hh <;> rcases Hole.isOperand_iff.mp hh with rfl | rfl | rfl <;>
      simp [word]
  have hend : ∀ b h, h.isOperand = true →
      Slot.text h ∉ onlyIf b (awkLayout .depthProgram) ++ listLayout d := by
    intro b h hh
    rcases Hole.isOperand_iff.mp hh with rfl | rfl | rfl <;>
      simp [mem_onlyIf, text_mem_awkLayout, text_notMem_listLayout]
  unfold layout pathsLayout
  cases ha : s.arm with
  | path literal =>
    simp only [List.append_assoc]
    exact operands_findLayout_append s _ (yields_grepLayout _ rfl (hkind _ (.inl rfl)) (hend _))
  | directories =>
    simp only [List.append_assoc]
    exact operands_findLayout_append s _ (yields_grepLayout _ rfl (hkind _ (.inl rfl)) (hend _))
  | nested =>
    simp only [List.append_assoc]
    refine operands_findLayout_append s _ (yields_grepLayout _ rfl (hkind _ (.inr rfl)) ?_)
    -- the search in each directory begins at a variable
    intro h hh
    rcases Hole.isOperand_iff.mp hh with rfl | rfl | rfl <;>
      simp [mem_onlyIf, text_mem_findLayout, text_mem_namesLayout, text_mem_relativeLayout,
        text_mem_awkLayout, text_notMem_loopLayout, text_notMem_listLayout, word, value, semicolon]
  | names =>
    simp only [List.append_assoc]
    refine operands_findLayout_append s _ (yields_nil ?_)
    intro h hh
    rcases Hole.isOperand_iff.mp hh with rfl | rfl | rfl <;>
      simp [mem_onlyIf, text_mem_namesLayout, text_mem_awkLayout, text_notMem_listLayout, word]

/-! ## Texts of operands -/

/-- The texts that a query has for operands. -/
def operandTexts (q : Query) : List String :=
  q.root ::
    match q.branch with
    | .path (.literal path) => [path]
    | .path (.pattern p) => [p.source]
    | .dirname (.pattern p) => [p.source]
    | _ => []

/-- The expression for a literal directory begins with the sign for the beginning of a line. -/
theorem head?_patternSource_literal (s : String) :
    (PathFilter.literal s).patternSource.toList.head? = some '^' := by
  have htext : (PathFilter.literal s).patternSource.toList =
      '^' :: ((Pattern.escape s).toList ++ ['$']) := by
    show ("^" ++ Pattern.escape s ++ "$").toList = _
    rw [String.toList_append, String.toList_append]
    rfl
  rw [htext, List.head?_cons]

theorem not_isGuarded_startWords (s : Shape) : ¬IsGuarded (startWords s) := by
  unfold startWords
  split <;> decide

/-- **The operands of a command are kept exactly if no text of its query begins with a dash.** -/
theorem isKept_operands_iff (d : Dialect) (q : Query) :
    (∀ x ∈ operands [] ((layout d (shape q)).map fun x => (x, x.fill (intended d q))), IsKept x) ↔
      ∀ a ∈ operandTexts q, a.toList.head? ≠ some '-' := by
  have hroot : IsKept (startWords (shape q), argument (q.normalizedRoot '/').toList) ↔
      q.root.toList.head? ≠ some '-' := by
    rw [isKept_argument_iff (not_isGuarded_startWords _), q.head?_normalizedRoot]
    cases q.root.toList.head? <;> simp
  have hgrep : ∀ mode ∈ ["-Fx", "-E"],
      ¬IsGuarded [bareWord "grep".toList, bareWord mode.toList] := by
    decide
  rw [operands_layout, operandTexts, List.forall_mem_cons, List.forall_mem_cons]
  refine and_congr hroot ?_
  have hshape : (shape q).arm = arm q := rfl
  rw [hshape]
  cases hb : q.branch with
  | path p =>
    cases p with
    | literal path =>
      have hfilter : filterOperands (intended d q) (arm q) =
          [([bareWord "grep".toList, bareWord "-Fx".toList], argument path.toList)] := by
        simp [arm, hb, filterOperands, intended]
      rw [hfilter, List.forall_mem_singleton, isKept_argument_iff (hgrep "-Fx" (by simp))]
      simp
    | pattern p =>
      have hfilter : filterOperands (intended d q) (arm q) =
          [([bareWord "grep".toList, bareWord "-E".toList], argument p.source.toList)] := by
        simp [arm, hb, filterOperands, intended]
      rw [hfilter, List.forall_mem_singleton, isKept_argument_iff (hgrep "-E" (by simp))]
      simp
  | dirname p =>
    have hfilter : filterOperands (intended d q) (arm q) =
        [([bareWord "grep".toList, bareWord "-E".toList], argument p.patternSource.toList)] := by
      cases hk : q.kind <;> simp [arm, hb, hk, filterOperands, intended]
    rw [hfilter, List.forall_mem_singleton, isKept_argument_iff (hgrep "-E" (by simp))]
    cases p with
    | literal s => simp [head?_patternSource_literal]
    | pattern p => simp [PathFilter.patternSource]
  | basename f => simp [arm, hb, filterOperands]

/-! ## Objects by their paths -/

/-- The layout of the command that lists one object. -/
def statLayout (d : Dialect) : List Slot := listWords d ++ [.text .path]

/-- The only text in it is the path. -/
def statText (path : String) : Hole → Option String
  | .path => some path
  | _ => none

theorem tokens?_statCommand (d : Dialect) (path : String) :
    Shell.tokens? (statCommand d path).toList =
      some ((statLayout d).map (Slot.fill (statText path))) := by
  have hbegins := (begins_listWords (f := statText path) d).append
    (opens_blank.append (begins_quotePosix path.toList))
  have htext : (statCommand d path).toList =
      d.listCommand.toList ++ ([' '] ++ quotePosix path.toList) := by
    show text [.fixed d.listCommand, .fixed " ", .arg path] = _
    simp [Piece.render, Shell.quote, Shell.word]
  rw [htext, statLayout, List.map_append]
  exact tokens?_of_begins hbegins

/-- The path comes after the options of the tool, and none of them is a guard. -/
theorem operands_statLayout (d : Dialect) :
    ∃ before, ¬IsGuarded before ∧
      operands [] ((statLayout d).map fun x => (x, x.fill f)) =
        [(before, argument ((f .path).getD "").toList)] := by
  obtain ⟨k, native⟩ := d
  cases k with
  | aix => exact ⟨["ls", "-dn"].map (bareWord ·.toList), by decide, rfl⟩
  | solaris => exact ⟨["ls", "-dn"].map (bareWord ·.toList), by decide, rfl⟩
  | linux => exact ⟨["ls", "-dn", "--full-time"].map (bareWord ·.toList), by decide, rfl⟩
  | macos => exact ⟨["ls", "-dnT"].map (bareWord ·.toList), by decide, rfl⟩

theorem isKept_statOperands_iff (d : Dialect) (path : String) :
    (∀ x ∈ operands [] ((statLayout d).map fun x => (x, x.fill (statText path))), IsKept x) ↔
      path.toList.head? ≠ some '-' := by
  obtain ⟨before, hbefore, he⟩ := operands_statLayout (f := statText path) d
  rw [he, List.forall_mem_singleton]
  exact isKept_argument_iff hbefore

/-- Each place is put together with the token in it. -/
theorem zip_map_fill (l : List Slot) :
    l.zip (l.map (Slot.fill f)) = l.map fun x => (x, x.fill f) := by
  rw [List.zip_eq_zipWith, List.zipWith_map_right, List.zipWith_self]

/--
**The operands of commands are taken for operands exactly if no text of a user begins with a dash.**
The shell reads the command for a query, and the one that lists an object, as their layouts with a
text in each place. Quotes are gone by then, and no tool is told that its options have ended: where
`find` begins, what `grep` looks for and what `ls` lists are options as soon as they look like one.
-/
theorem operands_kept_iff (d : Dialect) (q : Query) (path : String) :
    (∃ toks, Shell.tokens? (compile d q).command.toList = some toks ∧
      List.Forall₂ (Fits (intended d q)) (layout d (shape q)) toks ∧
      ((∀ x ∈ operands [] ((layout d (shape q)).zip toks), IsKept x) ↔
        ∀ a ∈ operandTexts q, a.toList.head? ≠ some '-')) ∧
    ∃ toks, Shell.tokens? (statCommand d path).toList = some toks ∧
      List.Forall₂ (Fits (statText path)) (statLayout d) toks ∧
      ((∀ x ∈ operands [] ((statLayout d).zip toks), IsKept x) ↔
        path.toList.head? ≠ some '-') := by
  have hfits : ∀ {l : List Slot} {f : Hole → Option String},
      (∀ h, .text h ∈ l → (f h).isSome = true) →
        List.Forall₂ (Fits f) l (l.map (Slot.fill f)) := by
    intro l f hl
    rw [List.forall₂_map_right_iff, List.forall₂_same]
    intro x hx
    exact fits_fill fun h hh => hl h (hh ▸ hx)
  refine ⟨⟨_, tokens?_compile d q, hfits ?_, ?_⟩, ⟨_, tokens?_statCommand d path, hfits ?_, ?_⟩⟩
  · intro h hh
    rw [isSome_intended, ← text_mem_layout_iff]
    exact hh
  · rw [zip_map_fill]
    exact isKept_operands_iff d q
  · intro h hh
    rcases List.mem_append.mp hh with hh | hh
    · exact absurd hh text_notMem_listWords
    · cases List.mem_singleton.mp hh
      rfl
  · rw [zip_map_fill]
    exact isKept_statOperands_iff d path

/-- A path that says where it begins is an operand, for all it has a dash and a quote in it. -/
theorem rooted_texts_are_kept :
    let q : Query := { root := "/-a'", path := some (.literal "/-a'/-x") }
    ∃ toks, Shell.tokens? (compile (.ofKind .linux) q).command.toList = some toks ∧
      ∀ x ∈ operands [] ((layout (.ofKind .linux) (shape q)).zip toks), IsKept x := by
  intro q
  obtain ⟨⟨toks, htoks, -, hiff⟩, -⟩ := operands_kept_iff (.ofKind .linux) q ""
  exact ⟨toks, htoks, hiff.mpr (by decide +kernel)⟩

/--
A root, a path to look for and a path to list that are taken for options. With such a root `find`
begins where the command runs.
-/
theorem dashed_texts_are_options :
    let q : Query := { root := "-xdev", path := some (.literal "-old") }
    (∃ toks, Shell.tokens? (compile (.ofKind .linux) q).command.toList = some toks ∧
      (operands [] ((layout (.ofKind .linux) (shape q)).zip toks)).map (·.2.text?) =
        [some "-xdev".toList, some "-old".toList] ∧
      ∀ x ∈ operands [] ((layout (.ofKind .linux) (shape q)).zip toks), ¬IsKept x) ∧
    (∃ toks, Shell.tokens? (statCommand (.ofKind .aix) "-rf").toList = some toks ∧
      ∀ x ∈ operands [] ((statLayout (.ofKind .aix)).zip toks), ¬IsKept x) ∧
    (Machine.FindQuery.ofArguments ["-xdev", "-type", "f"]).map (·.start) = .ok "." := by
  intro q
  have hsearch : operands [] ((layout (.ofKind .linux) (shape q)).zip
      ((layout (.ofKind .linux) (shape q)).map (Slot.fill (intended (.ofKind .linux) q)))) =
        [([bareWord "find".toList], argument "-xdev".toList),
          ([bareWord "grep".toList, bareWord "-Fx".toList], argument "-old".toList)] := by
    have hroot : q.normalizedRoot '/' = "-xdev" := by decide +kernel
    have harm : (shape q).arm = .path true := rfl
    have hstart : startWords (shape q) = [bareWord "find".toList] := rfl
    rw [zip_map_fill, operands_layout, hstart, harm, intended, hroot]
    rfl
  have hstat : operands [] ((statLayout (.ofKind .aix)).zip
      ((statLayout (.ofKind .aix)).map (Slot.fill (statText "-rf")))) =
        [(["ls", "-dn"].map (bareWord ·.toList), argument "-rf".toList)] := by
    rw [zip_map_fill]
    rfl
  refine ⟨⟨_, tokens?_compile _ q, ?_, ?_⟩, ⟨_, tokens?_statCommand _ _, ?_⟩, rfl⟩
  · rw [hsearch]
    simp
  · rw [hsearch, List.forall_mem_cons, List.forall_mem_singleton, isKept_argument_iff (by decide),
      isKept_argument_iff (by decide)]
    exact ⟨by decide, by decide⟩
  · rw [hstat, List.forall_mem_singleton, isKept_argument_iff (by decide)]
    decide

end RemoteSearch.Unix

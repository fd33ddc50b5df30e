import RemoteSearch.Proofs.Unix.Image

/-!
# Tokens of commands

The tokens of the command for a query, by what its governing constraint comes to. They are written
field by field, each before those that follow, since a field that may be missing can only be told
from what comes after it.
-/

namespace RemoteSearch.Unix

open Shell

/-! ## Fields -/

/-- A word that stands for itself. -/
def plainWord (s : String) : Token := bareWord s.toList

/-- The word for a flag that is set. -/
def flag (b : Bool) (name : String) : List Token := if b then [plainWord name] else []

/-- Words with a text after them, if there is one. -/
def field (ws : List Token) (o : Option String) : List Token :=
  match o with
  | some a => ws ++ [argument a.toList]
  | none => []

/-- Steps that run programs, one after the other. -/
def steps (programs : List String) : List Token :=
  programs.flatMap fun p =>
    [.operator ['|'], plainWord "awk", plainWord "-F/", argument p.toList]

/-- The tokens of a `find` up to what it tests, before others. -/
def findTokens (q : Query) (start : Token) (limit : Option Nat) (rest : List Token) : List Token :=
  plainWord "find" :: (flag q.followLinks "-L" ++ start ::
    (field [plainWord "-maxdepth"] (limit.map toString) ++
      (flag q.xdev "-xdev" ++ (field [plainWord "-fstype"] q.fsType ++ rest))))

/-- The tests for last names, before other tokens. -/
def nameTokens (f : NameFilter) (rest : List Token) : List Token :=
  field [plainWord "-name"] (f.equals.map Glob.escape) ++
    (field [plainWord "!", plainWord "-name"] (f.differs.map Glob.escape) ++ rest)

section Unique

variable {w : Token} {ws : List Token} {o o' : Option String} {r r' : List Token} {b b' : Bool}
  {name : String}

theorem head?_flag (hw : plainWord name ≠ w) (hr : r.head? ≠ some w) :
    (flag b name ++ r).head? ≠ some w := by
  cases b with
  | true => simpa [flag] using hw
  | false => exact hr

theorem head?_field {v : Token} (hw : v ≠ w) (hr : r.head? ≠ some w) :
    (field (v :: ws) o ++ r).head? ≠ some w := by
  cases o with
  | some a => simpa [field] using hw
  | none => exact hr

/-- A flag can be told from what follows. -/
theorem flag_inj (hr : r.head? ≠ some (plainWord name)) (hr' : r'.head? ≠ some (plainWord name))
    (h : flag b name ++ r = flag b' name ++ r') : b = b' ∧ r = r' := by
  cases b with
  | true =>
    cases b' with
    | true => exact ⟨rfl, (List.cons.inj h).2⟩
    | false =>
      have hr'' : r' = plainWord name :: r := h.symm
      rw [hr''] at hr'
      exact absurd rfl hr'
  | false =>
    cases b' with
    | true =>
      have hr'' : r = plainWord name :: r' := h
      rw [hr''] at hr
      exact absurd rfl hr
    | false => exact ⟨rfl, h⟩

/-- A field can be told from what follows. -/
theorem field_inj (hr : r.head? ≠ some w) (hr' : r'.head? ≠ some w)
    (h : field (w :: ws) o ++ r = field (w :: ws) o' ++ r') : o = o' ∧ r = r' := by
  cases o with
  | some a =>
    cases o' with
    | some a' =>
      simp only [field, List.cons_append, List.append_assoc, List.nil_append, List.cons.injEq,
        true_and] at h
      obtain ⟨ha, ht⟩ := List.cons.inj (List.append_cancel_left h)
      exact ⟨by rw [String.toList_inj.mp (argument_inj.mp ha)], ht⟩
    | none =>
      have hr'' : r' = w :: (ws ++ [argument a.toList] ++ r) := h.symm
      rw [hr''] at hr'
      exact absurd rfl hr'
  | none =>
    cases o' with
    | some a' =>
      have hr'' : r = w :: (ws ++ [argument a'.toList] ++ r') := h
      rw [hr''] at hr
      exact absurd rfl hr
    | none => exact ⟨rfl, h⟩

/-- Steps can be told from what follows. -/
theorem steps_inj {ps ps' : List String} (hr : r[1]? ≠ some (plainWord "awk"))
    (hr' : r'[1]? ≠ some (plainWord "awk")) (h : steps ps ++ r = steps ps' ++ r') : ps = ps' := by
  induction ps generalizing ps' with
  | nil =>
    cases ps' with
    | nil => rfl
    | cons p ps' =>
      have hr'' : r = [.operator ['|'], plainWord "awk", plainWord "-F/", argument p.toList] ++
          (steps ps' ++ r') := h
      rw [hr''] at hr
      exact absurd rfl hr
  | cons p ps ih =>
    cases ps' with
    | nil =>
      have hr'' : r' = [.operator ['|'], plainWord "awk", plainWord "-F/", argument p.toList] ++
          (steps ps ++ r) := h.symm
      rw [hr''] at hr'
      exact absurd rfl hr'
    | cons p' ps' =>
      have hcons : [.operator ['|'], plainWord "awk", plainWord "-F/", argument p.toList] ++
          (steps ps ++ r) = [.operator ['|'], plainWord "awk", plainWord "-F/",
            argument p'.toList] ++ (steps ps' ++ r') := h
      simp only [List.cons_append, List.nil_append, List.cons.injEq, true_and] at hcons
      rw [ih hcons.2, String.toList_inj.mp (argument_inj.mp hcons.1)]

/-- **The beginning of a `find` can be read back**, and so can what follows its tests. -/
theorem findTokens_inj {q₁ q₂ : Query} {start₁ start₂ : Token} {limit₁ limit₂ : Option Nat}
    (hs₁ : start₁ ≠ plainWord "-L") (hs₂ : start₂ ≠ plainWord "-L")
    (hr : r.head? = some (plainWord "-type")) (hr' : r'.head? = some (plainWord "-type"))
    (h : findTokens q₁ start₁ limit₁ r = findTokens q₂ start₂ limit₂ r') :
    q₁.followLinks = q₂.followLinks ∧ start₁ = start₂ ∧ limit₁ = limit₂ ∧ q₁.xdev = q₂.xdev ∧
      q₁.fsType = q₂.fsType ∧ r = r' := by
  have hafter : ∀ {w : Token} {r : List Token}, plainWord "-type" ≠ w →
      r.head? = some (plainWord "-type") → r.head? ≠ some w := by
    intro w r hw hr he
    rw [hr] at he
    exact hw (Option.some.inj he)
  have hfs : ∀ {w : Token} {r : List Token} (o : Option String), plainWord "-fstype" ≠ w →
      plainWord "-type" ≠ w → r.head? = some (plainWord "-type") →
      (field [plainWord "-fstype"] o ++ r).head? ≠ some w :=
    fun o h1 h2 hr => head?_field h1 (hafter h2 hr)
  unfold findTokens at h
  -- from left to right: a field is known as soon as what follows cannot begin with its first word
  obtain ⟨hlinks, h⟩ := flag_inj (by simpa using hs₁) (by simpa using hs₂) (List.cons.inj h).2
  obtain ⟨hstart, h⟩ := List.cons.inj h
  obtain ⟨hlimit, h⟩ := field_inj (head?_flag (by decide) (hfs _ (by decide) (by decide) hr))
    (head?_flag (by decide) (hfs _ (by decide) (by decide) hr')) h
  obtain ⟨hxdev, h⟩ := flag_inj (hfs _ (by decide) (by decide) hr)
    (hfs _ (by decide) (by decide) hr') h
  obtain ⟨htype, h⟩ := field_inj (hafter (by decide) hr) (hafter (by decide) hr') h
  refine ⟨hlinks, hstart, ?_, hxdev, htype, h⟩
  exact Option.map_injective (fun a b hab => Text.toString_inj.mp hab) hlimit

end Unique

/-! ## Tokens by filter -/

section Forms

variable (d : Dialect) (q : Query)

/-- The tokens of the command for a query. -/
def commandTokens : List Token := (layout d (shape q)).map (Slot.fill (intended d q))

/-- The tokens of the loop that lists each object. -/
def listTokens : List Token := (listLayout d).map (Slot.fill fun _ => none)

/-- The programs that count levels from the root on. -/
def depthPrograms : List String :=
  ((splitDepth d q.depth).2.map fun n =>
    (DepthFilter.below (q.normalizedRoot '/') n).program).toList

theorem map_listLayout (f : Hole → Option String) :
    (listLayout d).map (Slot.fill f) = listTokens d := by
  unfold listTokens listLayout listWords
  split <;> rfl

theorem map_onlyIf_text {f : Hole → Option String} {l : List Slot} {h : Hole} {b : Bool}
    {o : Option String} (hb : b = o.isSome) (ho : ∀ a, o = some a → f h = some a) :
    (onlyIf b (l ++ [.text h])).map (Slot.fill f) = field (l.map (Slot.fill f)) o := by
  subst hb
  cases o with
  | none => rfl
  | some a => simp [field, Slot.fill, ho a rfl]

theorem map_findLayout (start : Slot) (limit : Option Nat) (rest : List Token)
    (hl : ∀ n, limit = some n → intended d q .depth = some (toString n)) :
    (findLayout (shape q) start limit.isSome).map (Slot.fill (intended d q)) ++ rest =
      findTokens q (start.fill (intended d q)) limit rest := by
  have hdepth : (onlyIf limit.isSome [word "-maxdepth", .text .depth]).map
      (Slot.fill (intended d q)) = field [plainWord "-maxdepth"] (limit.map toString) := by
    refine map_onlyIf_text (l := [word "-maxdepth"]) (by simp) fun a ha => ?_
    obtain ⟨n, hn, rfl⟩ := Option.map_eq_some_iff.mp ha
    exact hl n hn
  have htype : (onlyIf q.fsType.isSome [word "-fstype", .text .fsType]).map
      (Slot.fill (intended d q)) = field [plainWord "-fstype"] q.fsType :=
    map_onlyIf_text (l := [word "-fstype"]) rfl fun a ha => ha
  have hflag : ∀ (b : Bool) (name : String),
      (onlyIf b [word name]).map (Slot.fill (intended d q)) = flag b name := by
    intro b name
    cases b <;> rfl
  have hshape : (shape q).hasFsType = q.fsType.isSome := rfl
  unfold findLayout findTokens
  simp only [List.map_append, List.map_cons, hdepth, hshape, htype, hflag,
    List.append_assoc, List.cons_append, List.nil_append]
  rfl

/-- The step of `grep`, before other tokens. -/
def grepTokens (mode text : String) (rest : List Token) : List Token :=
  .operator ['|'] :: plainWord "grep" :: plainWord mode :: argument text.toList :: rest

/-- The programs for a pattern of names. -/
def namePrograms : List String :=
  (q.basename.pattern.map fun p => Awk.lastNameProgram p.source).toList

/-- The words before a program that counts levels from the directory of the loop on. -/
def relativeWords : List Token :=
  [.operator ['|'], plainWord "awk", plainWord "-F/", plainWord "-v",
    .word [.bare 'd', .bare '=', .parameter ['d'] true]]

theorem map_awkLayout {f : Hole → Option String} {h : Hole} {b : Bool} {o : Option String}
    (hb : b = o.isSome) (ho : ∀ a, o = some a → f h = some a) :
    (onlyIf b (awkLayout h)).map (Slot.fill f) = steps o.toList := by
  subst hb
  cases o with
  | none => rfl
  | some a => simp [awkLayout, steps, Slot.fill, ho a rfl, bar, word, plainWord]

theorem map_depth (ha : arm q ≠ .nested) :
    (onlyIf ((shape q).hasDepth && !d.nativeDepth) (awkLayout .depthProgram)).map
      (Slot.fill (intended d q)) = steps (depthPrograms d q) := by
  refine map_awkLayout (by rw [← isSome_counted]; simp) fun a h => ?_
  obtain ⟨n, hn, rfl⟩ := Option.map_eq_some_iff.mp h
  exact program_of_counted d q ha hn

theorem map_relative (ha : arm q = .nested) :
    (onlyIf ((shape q).hasDepth && !d.nativeDepth) relativeLayout).map (Slot.fill (intended d q)) =
      field relativeWords ((splitDepth d q.depth).2.map DepthFilter.relativeProgram) := by
  refine map_onlyIf_text (l := [bar, word "awk", word "-F/", word "-v",
    .token (.word [.bare 'd', .bare '=', .parameter ['d'] true])])
    (by rw [← isSome_counted]; simp) fun a h => ?_
  obtain ⟨n, hn, rfl⟩ := Option.map_eq_some_iff.mp h
  exact relative_of_counted d q ha hn

theorem map_pattern (ha : (arm q).takesNames = true) :
    (onlyIf (shape q).hasPattern (awkLayout .nameProgram)).map (Slot.fill (intended d q)) =
      steps (namePrograms q) :=
  map_awkLayout (by simp [shape]) fun a h => by simp [intended, ha, h]

theorem map_namesLayout (ha : (arm q).takesNames = true) (rest : List Token) :
    (namesLayout (shape q)).map (Slot.fill (intended d q)) ++ rest =
      nameTokens q.basename rest := by
  have hequals : (onlyIf (shape q).hasEquals [word "-name", .text .equals]).map
      (Slot.fill (intended d q)) =
        field [plainWord "-name"] (q.basename.equals.map Glob.escape) :=
    map_onlyIf_text (l := [word "-name"]) (by simp [shape]) fun a h => by simp [intended, ha, h]
  have hdiffers : (onlyIf (shape q).hasDiffers [word "!", word "-name", .text .differs]).map
      (Slot.fill (intended d q)) =
        field [plainWord "!", plainWord "-name"] (q.basename.differs.map Glob.escape) :=
    map_onlyIf_text (l := [word "!", word "-name"]) (by simp [shape]) fun a h => by
      simp [intended, ha, h]
  unfold namesLayout nameTokens
  rw [List.map_append, hequals, hdiffers, List.append_assoc]

/-- The root of a search, as it stands in the command. -/
def rootToken : Token := argument (q.normalizedRoot '/').toList

/-- The part of a command up to the kind of object, where the search is below its root. -/
def startTokens (rest : List Token) : List Token :=
  findTokens q (rootToken q) (splitDepth d q.depth).1
    (plainWord "-type" :: argument q.kind.letter.toList :: rest)

/-- The start of the loop over directories, before other tokens. -/
def loopTokens (rest : List Token) : List Token :=
  .operator ['|'] :: plainWord "while" :: plainWord "IFS=" :: plainWord "read" :: plainWord "-r" ::
    bareWord ['d'] :: .operator [';'] :: plainWord "do" :: rest

/-- The search in each directory, and what comes after it. -/
def innerTokens (rest : List Token) : List Token :=
  findTokens q (.word [.parameter ['d'] true]) (splitDepth d q.depth).1
    (plainWord "-type" :: argument q.kind.letter.toList :: nameTokens q.basename
      (field relativeWords ((splitDepth d q.depth).2.map DepthFilter.relativeProgram) ++
        .operator [';'] :: plainWord "done" :: rest))

theorem map_start (rest : List Token) :
    (findLayout (shape q) (.text .root) ((shape q).hasDepth && d.nativeDepth)).map
        (Slot.fill (intended d q)) ++
      ([word "-type", .text .kind].map (Slot.fill (intended d q)) ++ rest) =
        startTokens d q rest := by
  rw [← isSome_native, map_findLayout d q _ _ _ fun n hn => depth_of_native d q hn]
  rfl

variable {q}

theorem map_grepLayout {f : Hole → Option String} {mode a : String} {h : Hole} (ha : f h = some a)
    (rest : List Token) :
    (grepLayout mode h).map (Slot.fill f) ++ rest = grepTokens mode a rest := by
  simp [grepLayout, grepTokens, Slot.fill, ha, bar, word, plainWord]

theorem commandTokens_of_literal {path : String} (hf : filter q = .literal path) :
    commandTokens d q =
      startTokens d q (grepTokens "-Fx" path (steps (depthPrograms d q) ++ listTokens d)) := by
  have hb : q.branch = .path (.literal path) := by
    unfold filter at hf
    split at hf <;> cases hf
    assumption
  have ha : arm q = .path true := by simp [arm, hb]
  have hs : (shape q).arm = .path true := ha
  have hp : intended d q .path = some path := by simp [intended, hb]
  unfold commandTokens layout pathsLayout
  rw [hs]
  simp only [List.map_append, List.append_assoc, map_listLayout, map_start,
    map_depth d q (by simp [ha]), if_true, map_grepLayout hp]

theorem commandTokens_of_pattern {source : String} (hf : filter q = .pattern source) :
    commandTokens d q =
      startTokens d q (grepTokens "-E" source (steps (depthPrograms d q) ++ listTokens d)) := by
  have hcases : (arm q = .path false ∧ intended d q .path = some source) ∨
      arm q = .directories ∧ intended d q .dirname = some source := by
    unfold filter at hf
    split at hf <;> cases hf
    · rename_i hb
      exact Or.inl ⟨by simp [arm, hb], by simp [intended, hb]⟩
    · rename_i hb hk
      exact Or.inr ⟨by simp [arm, hb, hk], by simp [intended, hb]⟩
  unfold commandTokens layout pathsLayout
  rcases hcases with ⟨ha, hp⟩ | ⟨ha, hp⟩
  · have hs : (shape q).arm = .path false := ha
    rw [hs]
    simp only [List.map_append, List.append_assoc, map_listLayout, map_start,
      map_depth d q (by simp [ha]), Bool.false_eq_true, if_false, map_grepLayout hp]
  · have hs : (shape q).arm = .directories := ha
    rw [hs]
    simp only [List.map_append, List.append_assoc, map_listLayout, map_start,
      map_depth d q (by simp [ha]), map_grepLayout hp]

theorem commandTokens_of_names {names : NameSlots} (hf : filter q = .names names) :
    nameSlots q.basename = names ∧ commandTokens d q =
      startTokens d q (nameTokens q.basename
        (steps (namePrograms q) ++ (steps (depthPrograms d q) ++ listTokens d))) := by
  have hb : q.branch = .basename q.basename ∧ nameSlots q.basename = names := by
    unfold filter at hf
    split at hf <;> cases hf
    rename_i f hb
    obtain rfl := basename_of_branch hb
    exact ⟨hb, rfl⟩
  obtain ⟨hb, hn⟩ := hb
  have ha : arm q = .names := by simp [arm, hb]
  have hs : (shape q).arm = .names := ha
  have htakes : (arm q).takesNames = true := by rw [ha]; rfl
  refine ⟨hn, ?_⟩
  unfold commandTokens layout pathsLayout
  rw [hs]
  simp only [List.map_append, List.append_assoc, map_listLayout, map_start,
    map_depth d q (by simp [ha]), map_namesLayout d q htakes, map_pattern d q htakes]

theorem commandTokens_of_within {source : String} {names : NameSlots}
    (hf : filter q = .within source names) :
    nameSlots q.basename = names ∧ commandTokens d q =
      findTokens q (rootToken q) none
        (plainWord "-type" :: plainWord "d" :: grepTokens "-E" source
          (loopTokens (innerTokens d q (steps (namePrograms q) ++ listTokens d)))) := by
  have hb : arm q = .nested ∧ intended d q .dirname = some source ∧
      nameSlots q.basename = names := by
    unfold filter at hf
    split at hf <;> cases hf
    rename_i hb hk
    refine ⟨?_, by simp [intended, hb], rfl⟩
    cases hkind : q.kind <;> simp_all [arm]
  obtain ⟨ha, hp, hn⟩ := hb
  have hs : (shape q).arm = .nested := ha
  have htakes : (arm q).takesNames = true := by rw [ha]; rfl
  refine ⟨hn, ?_⟩
  have houter : ∀ rest, (findLayout (shape q) (.text .root) false).map
      (Slot.fill (intended d q)) ++ rest =
        findTokens q (rootToken q) none rest := fun rest =>
    map_findLayout d q (.text .root) none rest (by simp)
  have hinner : ∀ rest, (findLayout (shape q) (value 'd')
      ((shape q).hasDepth && d.nativeDepth)).map (Slot.fill (intended d q)) ++ rest =
        findTokens q (.word [.parameter ['d'] true]) (splitDepth d q.depth).1 rest := by
    intro rest
    rw [← isSome_native]
    exact map_findLayout d q (value 'd') _ rest fun n hn => depth_of_native d q hn
  unfold commandTokens layout pathsLayout
  rw [hs]
  simp only [List.map_append, List.append_assoc, map_listLayout, houter, map_grepLayout hp, hinner,
    map_namesLayout d q htakes, map_relative d q ha, map_pattern d q htakes]
  rfl

end Forms

end RemoteSearch.Unix

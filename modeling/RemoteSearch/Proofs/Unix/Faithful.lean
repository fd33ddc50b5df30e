import RemoteSearch.Proofs.Path
import RemoteSearch.Proofs.Unix.Tokens

/-!
# Commands as images of queries

The command for a query tells all that its image has in it, if the root is an absolute path. The
kind of filter can be read off the tokens after the kind of object (`formOf`), and the fields one
after the other from there.
-/

namespace RemoteSearch.Unix

open Shell

/-! ## Reading an image off a command -/

/-! ### Texts -/

theorem escapeText_injective : Function.Injective Glob.escapeText := by
  intro a b h
  induction a generalizing b with
  | nil =>
    cases b with
    | nil => rfl
    | cons d b =>
      rw [Glob.escapeText, Glob.escapeText, List.flatMap_cons] at h
      by_cases hd : Glob.isSpecial d = true <;> simp [hd] at h
  | cons c a ih =>
    have hcons : ∀ c l, Glob.escapeText (c :: l) =
        (if Glob.isSpecial c then ['\\', c] else [c]) ++ Glob.escapeText l := fun _ _ => rfl
    have hslash : Glob.isSpecial '\\' = true := by decide
    cases b with
    | nil =>
      rw [hcons] at h
      by_cases hc : Glob.isSpecial c = true
      · rw [if_pos hc] at h
        cases h
      · rw [if_neg hc] at h
        cases h
    | cons d b =>
      rw [hcons, hcons] at h
      by_cases hc : Glob.isSpecial c = true
      · by_cases hd : Glob.isSpecial d = true
        · rw [if_pos hc, if_pos hd] at h
          simp only [List.cons_append, List.nil_append, List.cons.injEq, true_and] at h
          rw [h.1, ih h.2]
        · rw [if_pos hc, if_neg hd] at h
          obtain ⟨rfl, -⟩ := List.cons.inj h
          exact absurd hslash hd
      · by_cases hd : Glob.isSpecial d = true
        · rw [if_neg hc, if_pos hd] at h
          obtain ⟨rfl, -⟩ := List.cons.inj h
          exact absurd hslash hc
        · rw [if_neg hc, if_neg hd] at h
          obtain ⟨rfl, ht⟩ := List.cons.inj h
          rw [ih ht]

theorem escape_injective : Function.Injective Glob.escape := by
  intro a b h
  unfold Glob.escape at h
  rw [← String.toList_inj, String.toList_ofList, String.toList_ofList] at h
  exact String.toList_inj.mp (escapeText_injective h)

theorem lastNameProgram_inj {a b : String} (h : Awk.lastNameProgram a = Awk.lastNameProgram b) :
    Awk.escapeSlashes a.toList = Awk.escapeSlashes b.toList := by
  have htext := congrArg String.toList h
  rw [Awk.toList_lastNameProgram, Awk.toList_lastNameProgram] at htext
  exact List.append_cancel_right (List.append_cancel_left htext)

theorem letter_injective : Function.Injective SearchKind.letter := by
  intro a b h
  have hk : SearchKind.ofLetter? a.letter = SearchKind.ofLetter? b.letter := by rw [h]
  rw [SearchKind.ofLetter?_letter, SearchKind.ofLetter?_letter] at hk
  exact Option.some.inj hk

theorem program_inj {root : String} {m n : Nat}
    (h : (DepthFilter.below root m).program = (DepthFilter.below root n).program) : m = n := by
  have htext := congrArg String.toList h
  rw [DepthFilter.toList_program, DepthFilter.toList_program] at htext
  have hnumber := Text.toString_inj.mp (String.toList_inj.mp (List.append_cancel_left htext))
  simp only [DepthFilter.below] at hnumber
  omega

theorem relativeProgram_injective : Function.Injective DepthFilter.relativeProgram := by
  intro m n h
  have htext := congrArg String.toList h
  rw [DepthFilter.toList_relativeProgram, DepthFilter.toList_relativeProgram] at htext
  exact Text.toString_inj.mp (String.toList_inj.mp (List.append_cancel_left htext))

/-! ### Programs -/

section Programs

variable {d : Dialect} {q q₁ q₂ : Query}

/-- Whether a program looks at last names. -/
def isNameProgram (program : String) : Bool := program.toList.head? == some '$'

theorem isNameProgram_of_mem {program : String} (h : program ∈ namePrograms q) :
    isNameProgram program = true := by
  obtain ⟨p, -, rfl⟩ := Option.map_eq_some_iff.mp (Option.mem_toList.mp h)
  have hhead : "$NF ~ /".toList = '$' :: ['N', 'F', ' ', '~', ' ', '/'] := by decide
  rw [isNameProgram, Awk.toList_lastNameProgram, hhead]
  rfl

theorem isNameProgram_of_mem_depth {program : String} (h : program ∈ depthPrograms d q) :
    isNameProgram program = false := by
  obtain ⟨n, -, rfl⟩ := Option.map_eq_some_iff.mp (Option.mem_toList.mp h)
  have hhead : "NF <= ".toList = 'N' :: ['F', ' ', '<', '=', ' '] := by decide
  rw [isNameProgram, DepthFilter.toList_program, hhead]
  rfl

/-- Programs for names can be told from those for levels. -/
theorem programs_inj (h : namePrograms q₁ ++ depthPrograms d q₁ =
    namePrograms q₂ ++ depthPrograms d q₂) :
    namePrograms q₁ = namePrograms q₂ ∧ depthPrograms d q₁ = depthPrograms d q₂ := by
  -- either list may be empty, so lengths do not tell where the second one begins
  have hnames : ∀ q, (namePrograms q ++ depthPrograms d q).filter isNameProgram =
      namePrograms q := by
    intro q
    rw [List.filter_append, List.filter_eq_self.mpr fun p hp => isNameProgram_of_mem hp,
      List.filter_eq_nil_iff.mpr fun p hp => by simp [isNameProgram_of_mem_depth hp],
      List.append_nil]
  have hn : namePrograms q₁ = namePrograms q₂ := by rw [← hnames q₁, h, hnames q₂]
  rw [hn] at h
  exact ⟨hn, List.append_cancel_left h⟩

theorem pattern_of_namePrograms (h : namePrograms q₁ = namePrograms q₂) :
    q₁.basename.pattern.map (fun p => Awk.escapeSlashes p.source.toList) =
      q₂.basename.pattern.map fun p => Awk.escapeSlashes p.source.toList := by
  have hprograms := congrArg List.head? h
  rw [namePrograms, namePrograms, Option.head?_toList, Option.head?_toList] at hprograms
  cases h₁ : q₁.basename.pattern with
  | none =>
    rw [h₁, Option.map_none, eq_comm, Option.map_eq_none_iff] at hprograms
    rw [hprograms]
  | some p =>
    rw [h₁, Option.map_some, eq_comm, Option.map_eq_some_iff] at hprograms
    obtain ⟨p', h₂, hp⟩ := hprograms
    rw [h₂, Option.map_some, Option.map_some, lastNameProgram_inj hp]

theorem depth_of_splitDepth {m n : Option Nat} (h₁ : (splitDepth d m).1 = (splitDepth d n).1)
    (h₂ : (splitDepth d m).2 = (splitDepth d n).2) : m = n := by
  unfold splitDepth at h₁ h₂
  cases hd : d.nativeDepth with
  | true =>
    rw [hd] at h₁
    exact h₁
  | false =>
    rw [hd] at h₂
    exact h₂

theorem depth_of_depthPrograms (hroot : q₁.normalizedRoot '/' = q₂.normalizedRoot '/')
    (h₁ : (splitDepth d q₁.depth).1 = (splitDepth d q₂.depth).1)
    (h₂ : depthPrograms d q₁ = depthPrograms d q₂) : q₁.depth = q₂.depth := by
  refine depth_of_splitDepth h₁ ?_
  have hprograms := congrArg List.head? h₂
  rw [depthPrograms, depthPrograms, Option.head?_toList, Option.head?_toList, hroot] at hprograms
  exact Option.map_injective (fun m n h => program_inj h) hprograms

end Programs

/-! ### Kinds of filters -/

/-- The kinds of filters. -/
inductive Form where
  | literal
  | pattern
  | within
  | names
  deriving Repr, DecidableEq

/-- The kind of a filter. -/
def Filter.form : Filter → Form
  | .literal _ => .literal
  | .pattern _ => .pattern
  | .within _ _ => .within
  | .names _ => .names

/-- The kind of filter as the tokens after the kind of object tell it. -/
def formOf (l : List Token) : Form :=
  if l.take 2 = [.operator ['|'], plainWord "grep"] then
    if l[2]? = some (plainWord "-Fx") then .literal
    else if l[9]? = some (bareWord ['d']) then .within
    else .pattern
  else .names

section Tails

variable {d : Dialect} {q q₁ q₂ : Query} {r r' : List Token}

theorem formOf_literal (text : String) (rest : List Token) :
    formOf (grepTokens "-Fx" text rest) = .literal := rfl

theorem formOf_within (text : String) (rest : List Token) :
    formOf (grepTokens "-E" text (loopTokens rest)) = .within := rfl

/-- What the loop over the objects found begins with. -/
theorem listTokens_eq (d : Dialect) : ∃ rest, listTokens d =
    [.operator ['|'], plainWord "while", plainWord "IFS=", plainWord "read", plainWord "-r",
      bareWord ['f']] ++ rest := ⟨_, rfl⟩

theorem formOf_pattern (text : String) :
    formOf (grepTokens "-E" text (steps (depthPrograms d q) ++ listTokens d)) = .pattern := by
  obtain ⟨rest, hlist⟩ := listTokens_eq d
  rw [hlist]
  unfold depthPrograms
  cases (splitDepth d q.depth).2 <;> rfl

theorem formOf_names {f : NameFilter} (h : r[1]? ≠ some (plainWord "grep")) :
    formOf (nameTokens f r) = .names := by
  unfold nameTokens
  cases f.equals with
  | some a => rfl
  | none =>
    cases f.differs with
    | some a => rfl
    | none =>
      have hget : r.take 2 ≠ [.operator ['|'], plainWord "grep"] := by
        intro htake
        rw [← List.getElem?_take_of_lt (by decide : 1 < 2), htake] at h
        exact h rfl
      exact if_neg hget

end Tails

/-! ### Fields -/

section Fields

variable {d : Dialect} {q q₁ q₂ : Query} {r r' : List Token}

/-- An absolute path is no flag. -/
theorem rootToken_ne (h : q.root.toList.head? = some '/') : rootToken q ≠ plainWord "-L" := by
  intro he
  have htext : (rootToken q).text? = (plainWord "-L").text? := by rw [he]
  rw [rootToken, text?_argument, plainWord, text?_bareWord] at htext
  have hhead := q.head?_normalizedRoot
  rw [h, Option.some.inj htext] at hhead
  exact absurd hhead (by decide)

theorem startTokens_inj (hs₁ : rootToken q₁ ≠ plainWord "-L") (hs₂ : rootToken q₂ ≠ plainWord "-L")
    (h : startTokens d q₁ r = startTokens d q₂ r') :
    (splitDepth d q₁.depth).1 = (splitDepth d q₂.depth).1 ∧ q₁.kind = q₂.kind ∧ r = r' := by
  obtain ⟨-, -, hlimit, -, -, htest⟩ := findTokens_inj hs₁ hs₂ rfl rfl h
  obtain ⟨hkind, hr⟩ := List.cons.inj (List.cons.inj htest).2
  exact ⟨hlimit, letter_injective (String.toList_inj.mp (argument_inj.mp hkind)), hr⟩

theorem grepTokens_inj {mode a b : String} (h : grepTokens mode a r = grepTokens mode b r') :
    a = b ∧ r = r' := by
  unfold grepTokens at h
  simp only [List.cons.injEq, true_and] at h
  exact ⟨String.toList_inj.mp (argument_inj.mp h.1), h.2⟩

theorem nameTokens_inj {f g : NameFilter} {o o' : List Char} (hr : r.head? = some (.operator o))
    (hr' : r'.head? = some (.operator o')) (h : nameTokens f r = nameTokens g r') :
    f.equals = g.equals ∧ f.differs = g.differs ∧ r = r' := by
  have hafter : ∀ {r : List Token} {o name}, r.head? = some (.operator o) →
      r.head? ≠ some (plainWord name) := by
    intro r o name hr he
    rw [hr] at he
    cases Option.some.inj he
  have hdiffers : ∀ {r : List Token} {o} {t : Option String}, r.head? = some (.operator o) →
      (field [plainWord "!", plainWord "-name"] t ++ r).head? ≠ some (plainWord "-name") :=
    fun hr => head?_field (by decide) (hafter hr)
  obtain ⟨he, h⟩ := field_inj (hdiffers hr) (hdiffers hr') h
  obtain ⟨hd, h⟩ := field_inj (hafter hr) (hafter hr') h
  exact ⟨Option.map_injective escape_injective he, Option.map_injective escape_injective hd, h⟩

theorem listTokens_second : (listTokens d)[1]? ≠ some (plainWord "awk") := by
  obtain ⟨rest, hlist⟩ := listTokens_eq d
  rw [hlist]
  show some (plainWord "while") ≠ some (plainWord "awk")
  decide

theorem head?_steps (ps : List String) :
    (steps ps ++ listTokens d).head? = some (.operator ['|']) := by
  obtain ⟨rest, hlist⟩ := listTokens_eq d
  rw [hlist]
  cases ps <;> rfl

theorem steps_append (ps ps' : List String) : steps (ps ++ ps') = steps ps ++ steps ps' :=
  List.flatMap_append

end Fields

/-! ### Images -/

section Images

variable {d : Dialect} {q q₁ q₂ : Query}

/-- Where the command begins, and what follows the kind of object tells the kind of filter. -/
theorem commandTokens_head (d : Dialect) (q : Query) : ∃ limit kind rest,
    commandTokens d q = findTokens q (rootToken q) limit (plainWord "-type" :: kind :: rest) ∧
      formOf rest = (filter q).form := by
  cases hf : filter q with
  | literal path => exact ⟨_, _, _, commandTokens_of_literal d hf, formOf_literal _ _⟩
  | pattern source => exact ⟨_, _, _, commandTokens_of_pattern d hf, formOf_pattern _⟩
  | within source names => exact ⟨_, _, _, (commandTokens_of_within d hf).2, formOf_within _ _⟩
  | names names =>
    refine ⟨_, _, _, (commandTokens_of_names d hf).2, formOf_names ?_⟩
    -- after the tests for names comes `awk` or the loop that lists, never `grep`
    rw [← List.append_assoc, ← steps_append]
    obtain ⟨rest, hlist⟩ := listTokens_eq d
    rw [hlist]
    intro hsecond
    cases hp : namePrograms q ++ depthPrograms d q with
    | nil =>
      rw [hp] at hsecond
      exact absurd (Option.some.inj hsecond) (by decide)
    | cons p ps =>
      rw [hp] at hsecond
      exact absurd (Option.some.inj hsecond) (by decide)

/-- What a command tells about a query by its constraint on names. -/
theorem nameSlots_of_tokens (he : q₁.basename.equals = q₂.basename.equals)
    (hd : q₁.basename.differs = q₂.basename.differs) (hp : namePrograms q₁ = namePrograms q₂) :
    nameSlots q₁.basename = nameSlots q₂.basename := by
  unfold nameSlots
  rw [he, hd, pattern_of_namePrograms hp]

/-- A command with one step of `grep` tells its text, the limit of depth and the kind of object. -/
theorem grep_inj {mode a b : String} (hs₁ : rootToken q₁ ≠ plainWord "-L")
    (hs₂ : rootToken q₂ ≠ plainWord "-L") (hroot : q₁.normalizedRoot '/' = q₂.normalizedRoot '/')
    (h : startTokens d q₁ (grepTokens mode a (steps (depthPrograms d q₁) ++ listTokens d)) =
      startTokens d q₂ (grepTokens mode b (steps (depthPrograms d q₂) ++ listTokens d))) :
    q₁.depth = q₂.depth ∧ q₁.kind = q₂.kind ∧ a = b := by
  obtain ⟨hlimit, hkind, hgrep⟩ := startTokens_inj hs₁ hs₂ h
  obtain ⟨htext, hsteps⟩ := grepTokens_inj hgrep
  have hprograms := steps_inj listTokens_second listTokens_second hsteps
  exact ⟨depth_of_depthPrograms hroot hlimit hprograms, hkind, htext⟩

/-- A command with constraints on names below the root tells them. -/
theorem names_inj (hs₁ : rootToken q₁ ≠ plainWord "-L") (hs₂ : rootToken q₂ ≠ plainWord "-L")
    (hroot : q₁.normalizedRoot '/' = q₂.normalizedRoot '/')
    (h : startTokens d q₁ (nameTokens q₁.basename
        (steps (namePrograms q₁) ++ (steps (depthPrograms d q₁) ++ listTokens d))) =
      startTokens d q₂ (nameTokens q₂.basename
        (steps (namePrograms q₂) ++ (steps (depthPrograms d q₂) ++ listTokens d)))) :
    q₁.depth = q₂.depth ∧ q₁.kind = q₂.kind ∧
      nameSlots q₁.basename = nameSlots q₂.basename := by
  obtain ⟨hlimit, hkind, hnames⟩ := startTokens_inj hs₁ hs₂ h
  simp only [← List.append_assoc, ← steps_append] at hnames
  obtain ⟨he, hd, hsteps⟩ := nameTokens_inj (head?_steps _) (head?_steps _) hnames
  obtain ⟨hp, hdepth⟩ := programs_inj (steps_inj listTokens_second listTokens_second hsteps)
  exact ⟨depth_of_depthPrograms hroot hlimit hdepth, hkind, nameSlots_of_tokens he hd hp⟩

/-- What ends the search in each directory, after the tests for names. -/
theorem head?_relative (o : Option String) (rest : List Token) : ∃ op,
    (field relativeWords o ++ .operator [';'] :: plainWord "done" :: rest).head? =
      some (.operator op) := by
  cases o with
  | none => exact ⟨_, rfl⟩
  | some program => exact ⟨_, rfl⟩

/-- A command that searches in each of the directories found tells what it searches for there. -/
theorem within_inj {limit₁ limit₂ : Option Nat} {a b : String}
    (hs₁ : rootToken q₁ ≠ plainWord "-L") (hs₂ : rootToken q₂ ≠ plainWord "-L")
    (h : findTokens q₁ (rootToken q₁) limit₁ (plainWord "-type" :: plainWord "d" ::
        grepTokens "-E" a
          (loopTokens (innerTokens d q₁ (steps (namePrograms q₁) ++ listTokens d)))) =
      findTokens q₂ (rootToken q₂) limit₂ (plainWord "-type" :: plainWord "d" ::
        grepTokens "-E" b
          (loopTokens (innerTokens d q₂ (steps (namePrograms q₂) ++ listTokens d))))) :
    q₁.depth = q₂.depth ∧ q₁.kind = q₂.kind ∧ a = b ∧
      nameSlots q₁.basename = nameSlots q₂.basename := by
  obtain ⟨-, -, -, -, -, htest⟩ := findTokens_inj hs₁ hs₂ rfl rfl h
  obtain ⟨htext, hloop⟩ := grepTokens_inj (List.cons.inj (List.cons.inj htest).2).2
  -- the words that start the loop are the same for all queries
  have hsplit : loopTokens [] ++ _ = loopTokens [] ++ _ := hloop
  have hinner := List.append_cancel_left hsplit
  -- what is left is the search in each directory, a `find` of its own that starts from `$d`
  have hvalue : Token.word [.parameter ['d'] true] ≠ plainWord "-L" := by decide
  obtain ⟨-, -, hlimit, -, -, htest⟩ := findTokens_inj hvalue hvalue rfl rfl hinner
  obtain ⟨hkind, hnames⟩ := List.cons.inj (List.cons.inj htest).2
  obtain ⟨_, hhead₁⟩ := head?_relative
    ((splitDepth d q₁.depth).2.map DepthFilter.relativeProgram)
    (steps (namePrograms q₁) ++ listTokens d)
  obtain ⟨_, hhead₂⟩ := head?_relative
    ((splitDepth d q₂.depth).2.map DepthFilter.relativeProgram)
    (steps (namePrograms q₂) ++ listTokens d)
  obtain ⟨he, hd, hrelative⟩ := nameTokens_inj hhead₁ hhead₂ hnames
  have hend : ∀ rest : List Token, (Token.operator [';'] :: rest).head? ≠
      some (.operator ['|']) := by simp
  obtain ⟨hcounted, hdone⟩ := field_inj (hend _) (hend _) hrelative
  have hprograms := steps_inj listTokens_second listTokens_second
    (List.cons.inj (List.cons.inj hdone).2).2
  have hlevels := Option.map_injective relativeProgram_injective hcounted
  have hdepth := depth_of_splitDepth hlimit hlevels
  exact ⟨hdepth, letter_injective (String.toList_inj.mp (argument_inj.mp hkind)), htext,
    nameSlots_of_tokens he hd hprograms⟩

/-- **The image can be read off the tokens of a command.** -/
theorem image_of_commandTokens (h₁ : q₁.root.toList.head? = some '/')
    (h₂ : q₂.root.toList.head? = some '/') (h : commandTokens d q₁ = commandTokens d q₂) :
    image q₁ = image q₂ := by
  have hs₁ := rootToken_ne h₁
  have hs₂ := rootToken_ne h₂
  obtain ⟨_, _, rest₁, hhead₁, hform₁⟩ := commandTokens_head d q₁
  obtain ⟨_, _, rest₂, hhead₂, hform₂⟩ := commandTokens_head d q₂
  obtain ⟨hlinks, hstart, -, hxdev, hfs, htest⟩ :=
    findTokens_inj hs₁ hs₂ rfl rfl (hhead₁.symm.trans (h.trans hhead₂))
  have hroot : q₁.normalizedRoot '/' = q₂.normalizedRoot '/' :=
    String.toList_inj.mp (argument_inj.mp hstart)
  have hform : (filter q₁).form = (filter q₂).form := by
    rw [← hform₁, ← hform₂, (List.cons.inj (List.cons.inj htest).2).2]
  have hrest : q₁.depth = q₂.depth ∧ q₁.kind = q₂.kind ∧ filter q₁ = filter q₂ := by
    -- the kinds agree by `hform`, so that four of the pairs are left
    cases hf₁ : filter q₁ <;> cases hf₂ : filter q₂ <;> rw [hf₁, hf₂] at hform <;>
      cases hform
    case literal.literal path₁ path₂ =>
      rw [commandTokens_of_literal d hf₁, commandTokens_of_literal d hf₂] at h
      obtain ⟨hd, hk, rfl⟩ := grep_inj hs₁ hs₂ hroot h
      exact ⟨hd, hk, rfl⟩
    case pattern.pattern source₁ source₂ =>
      rw [commandTokens_of_pattern d hf₁, commandTokens_of_pattern d hf₂] at h
      obtain ⟨hd, hk, rfl⟩ := grep_inj hs₁ hs₂ hroot h
      exact ⟨hd, hk, rfl⟩
    case within.within source₁ names₁ source₂ names₂ =>
      obtain ⟨rfl, ht₁⟩ := commandTokens_of_within d hf₁
      obtain ⟨rfl, ht₂⟩ := commandTokens_of_within d hf₂
      rw [ht₁, ht₂] at h
      obtain ⟨hd, hk, rfl, hn⟩ := within_inj hs₁ hs₂ h
      exact ⟨hd, hk, by rw [hn]⟩
    case names.names names₁ names₂ =>
      obtain ⟨rfl, ht₁⟩ := commandTokens_of_names d hf₁
      obtain ⟨rfl, ht₂⟩ := commandTokens_of_names d hf₂
      rw [ht₁, ht₂] at h
      obtain ⟨hd, hk, hn⟩ := names_inj hs₁ hs₂ hroot h
      exact ⟨hd, hk, by rw [hn]⟩
  obtain ⟨hdepth, hkind, hfilter⟩ := hrest
  unfold image
  rw [hroot, hdepth, hlinks, hxdev, hfs, hkind, hfilter]

end Images

/--
**The command is a faithful image of the query.** Two queries with absolute paths as roots have the
same command, on any dialect, exactly if their images are the same: if they agree on the root
without slashes at its end, the limit of depth, both flags, the type of filesystem, the kind of
object and what the governing constraint comes to.
-/
theorem command_eq_iff_image_eq (d : Dialect) (q₁ q₂ : Query)
    (h₁ : q₁.root.toList.head? = some '/') (h₂ : q₂.root.toList.head? = some '/') :
    (compile d q₁).command = (compile d q₂).command ↔ image q₁ = image q₂ := by
  constructor
  · intro h
    have htokens : some (commandTokens d q₁) = some (commandTokens d q₂) := by
      rw [commandTokens, commandTokens, ← tokens?_compile, ← tokens?_compile, h]
    exact image_of_commandTokens h₁ h₂ (Option.some.inj htokens)
  · intro h
    rw [compile_congr h]

/-- A slash at the end of the root and a constraint that does not govern leave no trace. -/
theorem command_of_ungoverned_name :
    let q : Query := { root := "/srv", path := some (.literal "/srv/a") }
    let q' : Query := { q with root := "/srv/", basename := { equals := some "b" } }
    q.root.toList.head? = some '/' ∧ q'.root.toList.head? = some '/' ∧
      (compile (.ofKind .linux) q).command = (compile (.ofKind .linux) q').command := by
  refine ⟨by decide, by decide, ?_⟩
  exact (command_eq_iff_image_eq _ _ _ (by decide) (by decide)).mpr (by decide)

end RemoteSearch.Unix

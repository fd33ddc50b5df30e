import RemoteSearch.Platform
import RemoteSearch.Proofs.Path.Segments
import RemoteSearch.Proofs.Query.Extraction
import RemoteSearch.Proofs.Windows.CacheKey

/-!
# Limits of depth

Three widths meet where a search is limited: a condition takes any number, extraction refuses those
of 2³² and more, and the parameter of the helper is a signed integer of 32 bits. A limit between the
last two is written into the command, and the helper cannot take it.

* `depthWords_command`: the words that a command has behind its parameters for depth.
* `limits_fit_iff`: they are numbers of the parameter exactly if the limit is below 2³¹.
* `limit_beyond_parameter`: the least limit for which they are not.
-/

namespace RemoteSearch.Windows

open Condition Shell Text
open Piece (fixed arg)

/-! ## Words of commands -/

/-- The text of a command outside its quoted arguments. -/
def outside (quoted : Bool) : List Char → List Char
  | [] => []
  | c :: l =>
    if c = '\'' then outside (!quoted) l
    else if quoted then outside quoted l
    else c :: outside quoted l

/-- The words that come right after a given word. -/
def wordsAfter (word : List Char) : List (List Char) → List (List Char)
  | [] => []
  | [_] => []
  | w :: v :: l => if w = word then v :: wordsAfter word (v :: l) else wordsAfter word (v :: l)

/-- The name of the parameter for depth. -/
def depthParameter : List Char := "-Depth".toList

/-- The words that a command has behind the parameters for depth. -/
def depthWords (command : String) : List (List Char) :=
  wordsAfter depthParameter (splitAt ' ' (outside false command.toList))

theorem outside_append {text : List Char} (h : IsPlain text) (l : List Char) :
    outside false (text ++ l) = text ++ outside false l := by
  induction text with
  | nil => rfl
  | cons c text ih =>
    have hc : c ≠ '\'' := (h c List.mem_cons_self).1
    have ih := ih fun d hd => h d (List.mem_cons_of_mem c hd)
    simp only [List.cons_append, outside, if_neg hc, ih, Bool.false_eq_true, if_false]

/-- What is doubled does not end the argument. -/
theorem outside_replaceChar (a l : List Char) :
    outside true (replaceChar '\'' ['\'', '\''] a ++ l) = outside true l := by
  induction a with
  | nil => rfl
  | cons c a ih =>
    by_cases hc : c = '\''
    · subst hc
      rw [replaceChar_cons_self]
      exact ih
    · rw [replaceChar_cons_of_ne hc, List.cons_append, outside, if_neg hc, if_pos rfl, ih]

/-- **Arguments have no part in the text outside.** -/
theorem outside_quote (a l : List Char) :
    outside false (quotePowerShell a ++ l) = outside false l := by
  rw [quotePowerShell, List.cons_append, List.cons_append, List.append_assoc]
  exact outside_replaceChar a _

/-- The fixed text of pieces. -/
def fixedText : List Piece → List Char
  | [] => []
  | .fixed t :: l => t.toList ++ fixedText l
  | .arg _ :: l => fixedText l

@[simp] theorem fixedText_append (l m : List Piece) :
    fixedText (l ++ m) = fixedText l ++ fixedText m := by
  induction l with
  | nil => rfl
  | cons p l ih => cases p <;> simp [fixedText, ih]

/-- Outside of its arguments, a command has its fixed text. -/
theorem outside_render {l : List Piece} {after : Bool} (h : IsSpaced after l) :
    outside false (Shell.powershell.render l).toList = fixedText l := by
  induction l generalizing after with
  | nil => rfl
  | cons p l ih =>
    have hr : (Shell.powershell.render (p :: l)).toList =
        (p.render .powershell).toList ++ (Shell.powershell.render l).toList :=
      String.toList_append
    rw [hr]
    cases p with
    | fixed t => exact (outside_append h.1.2 _).trans (congrArg _ (ih h.2))
    | arg a =>
      have hq : (Piece.render .powershell (arg a)).toList = quotePowerShell a.toList :=
        String.toList_ofList
      rw [hq, outside_quote]
      exact ih h.2

theorem wordsAfter_append {word : List Char} {l m : List (List Char)}
    (h : l.getLast? ≠ some word) :
    wordsAfter word (l ++ m) = wordsAfter word l ++ wordsAfter word m := by
  induction l with
  | nil => rfl
  | cons w l ih =>
    cases l with
    | nil =>
      have hw : w ≠ word := fun he => h (he ▸ rfl)
      cases m with
      | nil => rfl
      | cons v m => simp [wordsAfter, hw]
    | cons v l =>
      have ih := ih (by rwa [List.getLast?_cons_cons] at h)
      simp only [List.cons_append] at ih ⊢
      rw [wordsAfter, wordsAfter, ih]
      split <;> rfl

/-! ## The limits of a command -/

/-- The limits of depth before the last one of a command: directories on the way to files have no
limit of their own. -/
def earlierLimits (q : Query) : List Int :=
  match q.branch, q.kind with
  | .dirname _, .directory => []
  | .dirname _, _ => [-1]
  | _, _ => []

/-- The limits of depth of the calls in a command, in order. -/
def limits (q : Query) : List Int := earlierLimits q ++ [depthNumber q.depth]

/-- A number as the text of a command. -/
def numeral (n : Int) : List Char := (toString n).toList

theorem notMem_numeral (depth : Option Nat) {c : Char} (hd : c.isDigit = false) (hc : c ≠ '-') :
    c ∉ numeral (depthNumber depth) := by
  cases depth with
  | none =>
    intro h
    have hmem : c ∈ ['-', '1'] := h
    rw [List.mem_cons, List.mem_singleton] at hmem
    rcases hmem with rfl | rfl
    · exact hc rfl
    · cases hd
  | some n =>
    intro h
    rw [isDigit_of_mem_toString (n := n) h] at hd
    cases hd

/-- The end of a command has the limit behind the parameter. -/
theorem wordsAfter_tail (depth : Option Nat) :
    wordsAfter depthParameter
        (splitAt ' ' ("-Depth".toList ++ ' ' :: (numeral (depthNumber depth) ++
          ' ' :: "| Print-FileInfo".toList))) = [numeral (depthNumber depth)] := by
  have hend : splitAt ' ' "| Print-FileInfo".toList = ["|".toList, "Print-FileInfo".toList] := by
    decide
  have hdigits : numeral (depthNumber depth) ≠ depthParameter := fun he =>
    notMem_numeral depth (c := 'D') rfl (by decide) (he ▸ by decide)
  rw [splitAt_append_cons (by decide), splitAt_append_cons (notMem_numeral depth rfl (by decide)),
    hend, wordsAfter, if_pos (by decide), wordsAfter, if_neg hdigits]
  rfl

/-- The words behind the parameter in a text that does not end with it. -/
def HasLimits (text : List Char) (ns : List Int) : Prop :=
  (splitAt ' ' text).getLast? ≠ some depthParameter ∧
    wordsAfter depthParameter (splitAt ' ' text) = ns.map numeral

instance (text : List Char) (ns : List Int) : Decidable (HasLimits text ns) :=
  inferInstanceAs (Decidable (_ ∧ _))

/-- The fixed text of parameters for names. -/
def nameTexts : List (List Char) :=
  [[], " -LiteralFilename ".toList, " -Filename ".toList, " -LiteralFilename  -Filename ".toList]

theorem fixedText_nameParameters_mem (f : NameFilter) :
    fixedText (nameParameters f) ∈ nameTexts := by
  unfold nameParameters
  cases f.equals <;> cases nameSource f <;> simp [fixedText, nameTexts]

theorem fixedText_call (command root : String) :
    fixedText (call command root) = command.toList ++ " -Path ".toList := by
  simp only [call, fixedText, String.toList_append, List.append_nil]
  rfl

theorem fixedText_patternParameter (f : PathFilter) :
    fixedText (patternParameter f) = " -Pattern ".toList := rfl

theorem hasLimits_findObjects (q : Query) :
    HasLimits (fixedText (findObjects q)) (earlierLimits q) := by
  -- whatever the arguments hold, the fixed text of a branch is one of four
  let files := "Find-Files".toList ++ " -Path ".toList
  let directories := "Find-Directories".toList ++ " -Path ".toList
  have hfiles : ∀ t ∈ nameTexts, HasLimits (files ++ t) [] := by decide
  have hpiped : ∀ t ∈ nameTexts, HasLimits
      (directories ++ " -Pattern ".toList ++ (" -Depth -1 | Find-Files".toList ++ t)) [-1] := by
    decide
  have hall : HasLimits directories [] := by decide
  have hmatches : HasLimits (files ++ " -Pattern ".toList) [] ∧
      HasLimits (directories ++ " -Pattern ".toList) [] := by decide
  have hnames := fixedText_nameParameters_mem q.basename
  unfold findObjects earlierLimits Query.branch
  cases q.path with
  | some f =>
    cases q.kind <;> simp only [fixedText_append, fixedText_call, fixedText_patternParameter]
    case directory => exact hmatches.2
    all_goals exact hmatches.1
  | none =>
    cases q.dirname with
    | some f =>
      cases q.kind <;>
        simp only [fixedText_append, fixedText_call, fixedText_patternParameter, fixedText]
      case directory => exact hmatches.2
      all_goals exact hpiped _ hnames
    | none =>
      cases q.kind <;> simp only [fixedText_append, fixedText_call]
      case directory => exact hall
      all_goals exact hfiles _ hnames

/-- **The words behind the parameters for depth are the limits of the calls**, in every branch and
whatever the arguments hold. -/
theorem depthWords_command (q : Query) :
    depthWords (Shell.powershell.render (searchPieces q)) = (limits q).map numeral := by
  obtain ⟨hlast, hearlier⟩ := hasLimits_findObjects q
  have htail : fixedText [fixed s!" -Depth {depthNumber q.depth} | Print-FileInfo"] =
      ' ' :: ("-Depth".toList ++ ' ' :: (numeral (depthNumber q.depth) ++
        ' ' :: "| Print-FileInfo".toList)) := by
    simp only [fixedText, String.toList_append, List.append_assoc, List.append_nil]
    rfl
  rw [depthWords, outside_render (isSpaced_searchPieces q), searchPieces, fixedText_append, htail,
    splitAt_append, wordsAfter_append hlast, wordsAfter_tail, hearlier, limits, List.map_append,
    List.map_singleton]

/-! ## Limits and the parameter -/

/-- Whether a number is one of a signed integer of 32 bits. -/
def FitsParameter (n : Int) : Prop := -0x8000_0000 ≤ n ∧ n < 0x8000_0000

instance (n : Int) : Decidable (FitsParameter n) := inferInstanceAs (Decidable (_ ∧ _))

theorem eq_of_mem_earlierLimits {q : Query} {n : Int} (h : n ∈ earlierLimits q) : n = -1 := by
  unfold earlierLimits at h
  split at h
  · cases h
  · exact List.mem_singleton.mp h
  · cases h

variable {cs : List Condition} {c : Compiled}

/--
**Limits reach the helper whole if they are below 2³¹.** Behind the parameters for depth a command
has numbers, in every branch. They are -1 and the limit that is asked for, if one is; limits of 2³²
and more are never compiled. So all of them are numbers of the parameter exactly if the limit is.
-/
theorem limits_fit_iff (h : Platform.windows.compileConditions cs = .ok c) :
    ∃ ns : List Int, depthWords c.command = ns.map numeral ∧
      (∀ n ∈ ns, n = -1 ∨ ∃ k : Nat, n = k ∧ .depth (some k) ∈ cs) ∧
      (∀ k : Nat, .depth (some k) ∈ cs → (k : Int) ∈ ns ∧ k < 0x1_0000_0000) ∧
      ((∀ n ∈ ns, FitsParameter n) ↔ ∀ k : Nat, .depth (some k) ∈ cs → k < 0x8000_0000) := by
  unfold Platform.compileConditions at h
  cases hq : Query.ofConditions cs with
  | error e =>
    rw [hq] at h
    cases h
  | ok q =>
    rw [hq] at h
    obtain ⟨-, -, rfl⟩ := compile_eq_ok_iff.mp h
    obtain ⟨his, hholds⟩ := Query.ofConditions_eq_ok_iff.mp hq
    have hsome : ∀ n ∈ limits q, n = -1 ∨ ∃ k : Nat, n = k ∧ .depth (some k) ∈ cs := by
      intro n hn
      rcases List.mem_append.mp hn with hn | hn
      · exact Or.inl (eq_of_mem_earlierLimits hn)
      · rw [List.mem_singleton.mp hn]
        rcases hholds.depth with hd | ⟨-, hd⟩
        · cases hlimit : q.depth with
          | none => exact Or.inl rfl
          | some k => exact Or.inr ⟨k, rfl, hlimit ▸ hd⟩
        · exact Or.inl (by rw [hd]; rfl)
    have hall : ∀ k : Nat, .depth (some k) ∈ cs → (k : Int) ∈ limits q := by
      intro k hk
      have hlimit : q.depth = some k := hholds.depth.eq_of_mem isSlot_depth his.agree hk
      rw [limits, hlimit]
      exact List.mem_append_right _ List.mem_cons_self
    refine ⟨limits q, depthWords_command q, hsome, fun k hk => ⟨hall k hk, his.depth k hk⟩, ?_⟩
    constructor
    · intro hfit k hk
      have hk := (hfit k (hall k hk)).2
      omega
    · intro hlt n hn
      rcases hsome n hn with rfl | ⟨k, rfl, hk⟩
      · exact ⟨by decide, by decide⟩
      · have hk := hlt k hk
        exact ⟨by omega, by omega⟩

/-- Below directories of a name, down to the greatest limit that the parameter takes. -/
theorem limits_below_directories_fit :
    let cs : List Condition :=
      [.root "C:\\", .dirname (.literal "C:\\Temp"), .depth (some 2147483647)]
    ∃ c, Platform.windows.compileConditions cs = .ok c ∧
      ∃ ns : List Int, depthWords c.command = ns.map numeral ∧ 2147483647 ∈ ns ∧
        ∀ n ∈ ns, FitsParameter n := by
  intro cs
  have hc : ∃ c, Platform.windows.compileConditions cs = .ok c := ⟨_, rfl⟩
  obtain ⟨c, hc⟩ := hc
  obtain ⟨ns, hwords, -, hall, hfit⟩ := limits_fit_iff hc
  refine ⟨c, hc, ns, hwords, (hall 2147483647 (by decide)).1, hfit.mpr fun k hk => ?_⟩
  have hk : Condition.depth (some k) = .depth (some 2147483647) := by simpa [cs] using hk
  cases hk
  decide

/-- **The least limit that does not fit is compiled.** -/
theorem limit_beyond_parameter :
    ∃ c, Platform.windows.compileConditions [.root "C:\\", .depth (some 2147483648)] = .ok c ∧
      c.command = "Find-Files -Path 'C:\\' -Depth 2147483648 | Print-FileInfo" ∧
      depthWords c.command = [numeral 2147483648] ∧ ¬FitsParameter 2147483648 := by
  refine ⟨_, rfl, ?_, ?_, ?_⟩
  · decide +kernel
  · decide +kernel
  · decide

end RemoteSearch.Windows

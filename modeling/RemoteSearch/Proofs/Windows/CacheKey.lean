import RemoteSearch.Proofs.Text.Digits
import RemoteSearch.Proofs.Windows.Reading
import RemoteSearch.Windows.Pipeline

/-!
# Keys of commands

The key of a search is its command in upper case. What two searches with one key have in common can
be said part by part, because commands can be read back: `cacheKey_eq_iff`.

Upper case hides more than the case of letters. A wide character has the upper case of several
others, and after a backslash in a regular expression the case of a letter has a meaning of its own.
Nothing else is hidden (`AgreesBeyondCase`), and the two pairs of searches at the end show that both
are.
-/

namespace RemoteSearch.Windows

open Text.Case Shell
open Regex (exists_source)

/-! ## The pieces of a search -/

theorem isPlain_toString (n : Nat) : IsPlain (toString n).toList := by
  intro c hc
  have hd : c.isDigit = true := Text.isDigit_of_mem_toString hc
  simp only [Char.isDigit, Bool.and_eq_true, decide_eq_true_eq] at hd
  refine ⟨?_, ?_⟩
  · rintro rfl
    exact absurd hd.1 (by decide)
  · have hle := UInt32.le_iff_toNat_le.mp hd.2
    exact Nat.lt_of_le_of_lt hle (by decide)

theorem isPlain_depthNumber (depth : Option Nat) : IsPlain (toString (depthNumber depth)).toList := by
  cases depth with
  | none => decide
  | some n => exact isPlain_toString n

/-- The end of a search: the limit of depth, and the printing of what is found. -/
theorem isSpaced_tail (depth : Option Nat) (after : Bool) :
    IsSpaced after [.fixed s!" -Depth {depthNumber depth} | Print-FileInfo"] := by
  have hfirst : IsPlain " -Depth ".toList := by decide
  have hlast : IsPlain " | Print-FileInfo".toList := by decide
  have hne : " | Print-FileInfo".toList ≠ [] := by decide
  refine ⟨⟨?_, ?_⟩, rfl⟩ <;> simp only [String.toList_append]
  · exact fun hn => hne (List.append_eq_nil_iff.mp hn).2
  · exact (hfirst.append (isPlain_depthNumber depth)).append hlast

/-- A parameter with an argument, before spaced pieces. -/
theorem isSpaced_parameter {name : String} {l : List Piece} (after : Bool) (a : String)
    (hn : name.toList ≠ [] ∧ IsPlain name.toList) (hl : IsSpaced false l) :
    IsSpaced after (.fixed name :: .arg a :: l) := ⟨hn, rfl, hl⟩

theorem isSpaced_nameParameters {l : List Piece} (f : NameFilter) (after : Bool)
    (hl : IsSpaced false l) : IsSpaced after (nameParameters f ++ l) := by
  unfold nameParameters
  cases f.equals with
  | none =>
    cases nameSource f with
    | none => exact hl.weaken after
    | some source => exact isSpaced_parameter after source (by decide) hl
  | some name =>
    cases nameSource f with
    | none => exact isSpaced_parameter after name (by decide) hl
    | some source =>
      exact isSpaced_parameter after name (by decide)
        (isSpaced_parameter false source (by decide) hl)

/-- **The commands of searches are spaced.** -/
theorem isSpaced_searchPieces (q : Query) : IsSpaced false (searchPieces q) := by
  have htail : ∀ after, IsSpaced after [.fixed s!" -Depth {depthNumber q.depth} | Print-FileInfo"] :=
    isSpaced_tail q.depth
  unfold searchPieces findObjects
  split
  · exact isSpaced_parameter false _ (by decide)
      (isSpaced_parameter false _ (by decide) (htail false))
  · exact isSpaced_parameter false _ (by decide)
      (isSpaced_parameter false _ (by decide) (htail false))
  · exact isSpaced_parameter false _ (by decide)
      (isSpaced_parameter false _ (by decide) (htail false))
  · refine isSpaced_parameter false _ (by decide) (isSpaced_parameter false _ (by decide) ?_)
    exact ⟨by decide, isSpaced_nameParameters q.basename true (htail false)⟩
  · exact isSpaced_parameter false _ (by decide) (htail false)
  · rename_i f _ _
    exact isSpaced_parameter false _ (by decide) (isSpaced_nameParameters f false (htail false))

/-! ## What keys have in common -/

/-- The parts of the command that runs a query. -/
def commandParts (q : Query) : Parts := parts (searchPieces q)

theorem isReadable_commandParts (q : Query) : (commandParts q).IsReadable :=
  isReadable_parts (isSpaced_searchPieces q)

/-- The command of a query that can be expressed. -/
def compiled (q : Query) : Compiled := .ofCommand (Shell.powershell.render (searchPieces q)) true

theorem compile_eq_ok_iff {q : Query} {c : Compiled} :
    compile q = .ok c ↔ q.followLinks = false ∧ q.kind ≠ .link ∧ c = compiled q := by
  unfold compile compiled
  by_cases hf : q.followLinks = true
  · simp [hf]
  · by_cases hk : q.kind = .link
    · simp [hf, hk]
    · simp [hf, hk, eq_comm]

theorem toList_of_compile {q : Query} {c : Compiled} (h : compile q = .ok c) :
    c.command.toList = (commandParts q).write ∧
      c.cacheKey.toList = (commandParts q).upper.write := by
  obtain ⟨-, -, rfl⟩ := compile_eq_ok_iff.mp h
  have hw : (commandParts q).write = (Shell.powershell.render (searchPieces q)).toList :=
    write_parts _
  refine ⟨hw.symm, ?_⟩
  rw [write_upper, hw]
  simp [compiled, Compiled.ofCommand, Text.Case.upper]

/--
**Two searches have one key exactly if their commands have the same parts up to upper case**: as
many arguments, each with the same upper case, and the same words around them.
-/
theorem cacheKey_eq_iff {q₁ q₂ : Query} {c₁ c₂ : Compiled} (h₁ : compile q₁ = .ok c₁)
    (h₂ : compile q₂ = .ok c₂) :
    c₁.cacheKey = c₂.cacheKey ↔ (commandParts q₁).upper = (commandParts q₂).upper := by
  rw [← String.toList_inj, (toList_of_compile h₁).2, (toList_of_compile h₂).2]
  exact write_inj (isReadable_upper (isReadable_commandParts q₁))
    (isReadable_upper (isReadable_commandParts q₂))

/-! ## What keys do not tell -/

/-- The characters that follow an unescaped backslash in a regular expression. -/
def escapes : List Char → List Char
  | '\\' :: c :: l => c :: escapes l
  | _ :: l => escapes l
  | [] => []

/-- Whether a regular expression comes after fixed text; names of parameters have no case. -/
def takesPattern (text : List Char) : Bool :=
  " -PATTERN ".toList.isSuffixOf (upperText text) ||
    " -FILENAME ".toList.isSuffixOf (upperText text)

/-- The regular expressions among the arguments of a command. -/
def patterns (p : Parts) : List (List Char) :=
  (p.arguments.filter fun x => takesPattern x.1).map Prod.snd

/--
Two commands are the same search: they differ in the case of single characters only, and nowhere
after an unescaped backslash of a regular expression, where case has a meaning.
-/
structure IsSameSearch (q₁ q₂ : Query) (c₁ c₂ : Compiled) : Prop where
  variant : CaseVariant c₁.command.toList c₂.command.toList
  escapes : List.Forall₂ (fun a b => escapes a = escapes b) (patterns (commandParts q₁))
    (patterns (commandParts q₂))

/--
The arguments of two commands agree in what upper case does not show: the places of wide characters,
and in regular expressions the escaped characters.
-/
def AgreesBeyondCase (p p' : Parts) : Prop :=
  List.Forall₂ (fun x y => SameWide x.2 y.2 ∧ (takesPattern x.1 = true → escapes x.2 = escapes y.2))
    p.arguments p'.arguments

theorem not_isWide_of_isPlainChar {c : Char} (h : IsPlainChar c) : ¬IsWide c := by
  intro hw
  simp [IsWide, upperOf, h.2] at hw

theorem sameWide_of_plain {a b : List Char} (ha : IsPlain a)
    (hb : IsPlain b) : SameWide a b := by
  intro i c hw
  constructor
  · intro h
    exact absurd hw (not_isWide_of_isPlainChar (ha c (List.mem_of_getElem? h)))
  · intro h
    exact absurd hw (not_isWide_of_isPlainChar (hb c (List.mem_of_getElem? h)))

/-- Related patterns of a command are related arguments of its parameters for patterns. -/
theorem forall₂_patterns_iff {S : List Char → List Char → Prop}
    {l l' : List (List Char × List Char)}
    (h : List.Forall₂ (fun x y => upperText x.1 = upperText y.1) l l') :
    List.Forall₂ S ((l.filter fun x => takesPattern x.1).map Prod.snd)
        ((l'.filter fun x => takesPattern x.1).map Prod.snd) ↔
      List.Forall₂ (fun x y => takesPattern x.1 = true → S x.2 y.2) l l' := by
  induction h with
  | nil => simp
  | @cons x y l l' hxy _ ih =>
    have ht : takesPattern x.1 = takesPattern y.1 := by simp only [takesPattern, hxy]
    by_cases hx : takesPattern x.1 = true
    · have hy : takesPattern y.1 = true := ht ▸ hx
      simp [hx, hy, ih]
    · have hy : ¬takesPattern y.1 = true := ht ▸ hx
      simp [hx, hy, ih]

theorem isVariant_quote : ∀ c d, IsVariant c d → (c = '\'' ↔ d = '\'') :=
  fun _ _ h => h.quote_iff

/-- Parts with one upper case have arguments and words with one upper case. -/
theorem forall₂_of_upper_eq {p p' : Parts} (h : p.upper = p'.upper) :
    List.Forall₂ (fun x y => upperText x.1 = upperText y.1 ∧ upperText x.2 = upperText y.2)
      p.arguments p'.arguments ∧ upperText p.last = upperText p'.last := by
  have hargs : p.upper.arguments = p'.upper.arguments := by rw [h]
  have hlast : p.upper.last = p'.upper.last := by rw [h]
  rw [← List.forall₂_eq_eq_eq] at hargs
  have hmap := List.forall₂_map_right_iff.mp (List.forall₂_map_left_iff.mp hargs)
  exact ⟨hmap.imp fun x y hxy => Prod.mk.inj hxy, hlast⟩

/-- Plain words and arguments that agree in wide characters are variants. -/
theorem forall₂_caseVariant {l l' : List (List Char × List Char)}
    (hl : ∀ x ∈ l, IsPlain x.1) (hl' : ∀ y ∈ l', IsPlain y.1)
    (hu : List.Forall₂ (fun x y => upperText x.1 = upperText y.1 ∧ upperText x.2 = upperText y.2)
      l l')
    (hw : List.Forall₂ (fun x y => SameWide x.2 y.2) l l') :
    List.Forall₂ (fun x y => CaseVariant x.1 y.1 ∧ CaseVariant x.2 y.2) l l' := by
  induction hu with
  | nil => exact .nil
  | @cons x y l l' hxy _ ih =>
    cases hw with
    | cons hwide hrest =>
      have hx := sameWide_of_plain (hl x List.mem_cons_self) (hl' y List.mem_cons_self)
      have hvariants := ih (fun x hx => hl x (List.mem_cons_of_mem _ hx))
        (fun y hy => hl' y (List.mem_cons_of_mem _ hy)) hrest
      exact .cons ⟨caseVariant_iff.mpr ⟨hxy.1, hx⟩, caseVariant_iff.mpr ⟨hxy.2, hwide⟩⟩ hvariants

/--
**What two searches with one key have in common.** Two searches have one key exactly if their
commands have the same parts up to upper case. And then they are the same search exactly if their
arguments agree in wide characters and in escaped characters of regular expressions, about which the
key says nothing.
-/
theorem shared_key_iff {q₁ q₂ : Query} {c₁ c₂ : Compiled} (h₁ : compile q₁ = .ok c₁)
    (h₂ : compile q₂ = .ok c₂) :
    (c₁.cacheKey = c₂.cacheKey ↔ (commandParts q₁).upper = (commandParts q₂).upper) ∧
      (c₁.cacheKey = c₂.cacheKey →
        (IsSameSearch q₁ q₂ c₁ c₂ ↔ AgreesBeyondCase (commandParts q₁) (commandParts q₂))) := by
  refine ⟨cacheKey_eq_iff h₁ h₂, fun hk => ?_⟩
  obtain ⟨hfold, hlast⟩ := forall₂_of_upper_eq ((cacheKey_eq_iff h₁ h₂).mp hk)
  have hwords : List.Forall₂ (fun x y => upperText x.1 = upperText y.1)
      (commandParts q₁).arguments (commandParts q₂).arguments := hfold.imp fun x y h => h.1
  constructor
  · rintro ⟨hv, he⟩
    rw [(toList_of_compile h₁).1, (toList_of_compile h₂).1] at hv
    have hparts := (reading_unique isVariant_quote (isReadable_commandParts q₁)
      (isReadable_commandParts q₂) hv).1
    have hpatterns := (forall₂_patterns_iff hwords).mp he
    exact hparts.mp (fun x y h hp => ⟨CaseVariant.sameWide h.2, hp⟩) hpatterns
  · intro ha
    refine ⟨?_, (forall₂_patterns_iff hwords).mpr (ha.imp fun x y h => h.2)⟩
    rw [(toList_of_compile h₁).1, (toList_of_compile h₂).1]
    obtain ⟨hp₁, -, hl₁⟩ := plain_of_isSpaced [] isPlain_nil (by simp)
      (isSpaced_searchPieces q₁)
    obtain ⟨hp₂, -, hl₂⟩ := plain_of_isSpaced [] isPlain_nil (by simp)
      (isSpaced_searchPieces q₂)
    refine forall₂_write isVariant_quote (Or.inl rfl) ?_
      (caseVariant_iff.mpr ⟨hlast, sameWide_of_plain hl₁ hl₂⟩)
    exact forall₂_caseVariant (fun x hx => (hp₁ x hx).2) (fun y hy => (hp₂ y hy).2) hfold
      (ha.imp fun x y h => h.1)

/-- Two spellings of one root share a key, and are the same search. -/
theorem shared_key_of_temp_directory :
    let q₁ : Query := { root := "C:\\Temp" }
    let q₂ : Query := { root := "c:\\TEMP" }
    compile q₁ = .ok (compiled q₁) ∧ compile q₂ = .ok (compiled q₂) ∧
      (compiled q₁).cacheKey = (compiled q₂).cacheKey ∧
      IsSameSearch q₁ q₂ (compiled q₁) (compiled q₂) := by
  intro q₁ q₂
  let word := "Find-Files -Path ".toList
  let last := " -Depth -1 | Print-FileInfo".toList
  have hp₁ : commandParts q₁ = ⟨[(word, "C:\\Temp".toList)], last⟩ := by decide +kernel
  have hp₂ : commandParts q₂ = ⟨[(word, "c:\\TEMP".toList)], last⟩ := by decide +kernel
  have h₁ : compile q₁ = .ok (compiled q₁) := rfl
  have h₂ : compile q₂ = .ok (compiled q₂) := rfl
  obtain ⟨hkey, hsame⟩ := shared_key_iff h₁ h₂
  have hk : (compiled q₁).cacheKey = (compiled q₂).cacheKey := by
    rw [hkey, hp₁, hp₂]
    decide +kernel
  refine ⟨h₁, h₂, hk, (hsame hk).mpr ?_⟩
  rw [hp₁, hp₂]
  have hwide : SameWide "C:\\Temp".toList "c:\\TEMP".toList :=
    sameWide_of_plain (by decide) (by decide)
  exact .cons ⟨hwide, fun _ => by decide⟩ .nil

/-- The parts of a search for a pattern of names on a whole drive. -/
theorem commandParts_of_pattern (p : Regex) :
    commandParts { root := "C:\\", basename := { pattern := some p } } =
      ⟨[("Find-Files -Path ".toList, "C:\\".toList), (" -Filename ".toList, p.source.toList)],
        " -Depth -1 | Print-FileInfo".toList⟩ := by
  have hroot : String.ofList (Query.normalizedRootText '\\' "C:\\".toList) = "C:\\" := by
    decide +kernel
  have htail : s!" -Depth {depthNumber none} | Print-FileInfo" = " -Depth -1 | Print-FileInfo" := by
    decide +kernel
  show parts [.fixed "Find-Files -Path ",
    .arg (String.ofList (Query.normalizedRootText '\\' "C:\\".toList)), .fixed " -Filename ",
    .arg p.source, .fixed s!" -Depth {depthNumber none} | Print-FileInfo"] = _
  rw [hroot, htail]
  rfl

/-- **Digits and everything but digits share a key.** -/
theorem shared_key_of_opposite_classes :
    ∃ p₁ p₂ : Regex, p₁.source = "\\d" ∧ p₂.source = "\\D" ∧
      let q₁ : Query := { root := "C:\\", basename := { pattern := some p₁ } }
      let q₂ : Query := { root := "C:\\", basename := { pattern := some p₂ } }
      ∃ c₁ c₂, compile q₁ = .ok c₁ ∧ compile q₂ = .ok c₂ ∧ c₁.cacheKey = c₂.cacheKey ∧
        ¬IsSameSearch q₁ q₂ c₁ c₂ := by
  obtain ⟨p₁, h₁⟩ := exists_source "\\d" (by decide +kernel)
  obtain ⟨p₂, h₂⟩ := exists_source "\\D" (by decide +kernel)
  refine ⟨p₁, p₂, h₁, h₂, ?_⟩
  intro q₁ q₂
  have hc : ∀ p : Regex, compile { root := "C:\\", basename := { pattern := some p } } =
      .ok (compiled { root := "C:\\", basename := { pattern := some p } }) := fun _ => rfl
  have hk : (compiled q₁).cacheKey = (compiled q₂).cacheKey := by
    rw [cacheKey_eq_iff (hc p₁) (hc p₂), commandParts_of_pattern, commandParts_of_pattern, h₁, h₂]
    decide +kernel
  refine ⟨compiled q₁, compiled q₂, hc p₁, hc p₂, hk, fun hs => ?_⟩
  have he := hs.escapes
  rw [commandParts_of_pattern, commandParts_of_pattern, h₁, h₂] at he
  have hp : ∀ s, patterns ⟨[("Find-Files -Path ".toList, "C:\\".toList), (" -Filename ".toList, s)],
      " -Depth -1 | Print-FileInfo".toList⟩ = [s] := fun _ => rfl
  rw [hp, hp] at he
  cases he with
  | cons h _ => exact absurd h (by decide)

/-- **The sharp s and two letters share a key.** -/
theorem shared_key_of_sharp_s :
    let q₁ : Query := { root := "C:\\ß" }
    let q₂ : Query := { root := "C:\\SS" }
    ∃ c₁ c₂, compile q₁ = .ok c₁ ∧ compile q₂ = .ok c₂ ∧ c₁.cacheKey = c₂.cacheKey ∧
      ¬IsSameSearch q₁ q₂ c₁ c₂ := by
  intro q₁ q₂
  have hk : (commandParts q₁).upper = (commandParts q₂).upper := by decide +kernel
  have h₁ : compile q₁ = .ok (compiled q₁) := rfl
  have h₂ : compile q₂ = .ok (compiled q₂) := rfl
  refine ⟨_, _, h₁, h₂, (cacheKey_eq_iff h₁ h₂).mpr hk, fun hs => ?_⟩
  have hl := hs.variant.length_eq
  have hne : (compiled q₁).command.toList.length ≠ (compiled q₂).command.toList.length := by
    decide +kernel
  exact hne hl

end RemoteSearch.Windows

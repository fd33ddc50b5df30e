import Mathlib.Data.List.Nodup
import RemoteSearch.Platform
import RemoteSearch.Proofs.Pattern.Reading
import RemoteSearch.Proofs.Query.Extraction
import RemoteSearch.Proofs.Windows.CacheKey

/-!
# Spellings of a search

Windows takes paths, names and commands without regard to case, so a search that is spelled with
other cases of the same ASCII letters should be found in the cache. The case of letters makes no
difference to any decision on the way from conditions to a key: not to what is a root or a drive,
not to what is escaped or quoted, and not to which constraint governs.

* `Condition.Respelled`: two conditions of one slot that differ in the case of ASCII letters only.
* `ofConditions_respelled`: such conditions make queries that differ in nothing else.
* `spellings_share_a_key`: and these are refused alike, or have one key.
-/

namespace RemoteSearch

open Text.Case

/-! ## Texts -/

/-- Two strings differ in the case of ASCII letters only. -/
def SpelledAlike (a b : String) : Prop := SameLetters a.toList b.toList

instance (a b : String) : Decidable (SpelledAlike a b) :=
  inferInstanceAs (Decidable (SameLetters _ _))

section Texts

variable {a b a' b' : String}

theorem SpelledAlike.refl (a : String) : SpelledAlike a a := SameLetters.refl a.toList

theorem SpelledAlike.append (h : SpelledAlike a b) (h' : SpelledAlike a' b') :
    SpelledAlike (a ++ a') (b ++ b') := by
  unfold SpelledAlike
  rw [String.toList_append, String.toList_append]
  exact SameLetters.append h h'

theorem spelledAlike_ofList {l l' : List Char} (h : SameLetters l l') :
    SpelledAlike (String.ofList l) (String.ofList l') := by
  unfold SpelledAlike
  rwa [String.toList_ofList, String.toList_ofList]

theorem SpelledAlike.eq_empty_iff (h : SpelledAlike a b) : a = "" ↔ b = "" := by
  have hl : a.toList.length = b.toList.length := List.Forall₂.length_eq h
  rw [← String.toList_eq_nil_iff, ← String.toList_eq_nil_iff, ← List.length_eq_zero_iff, hl,
    List.length_eq_zero_iff]

/-- **Escaping keeps the letters**, for what is escaped is no letter. -/
theorem SpelledAlike.escape (h : SpelledAlike a b) :
    SpelledAlike (Pattern.escape a) (Pattern.escape b) := by
  refine spelledAlike_ofList (SameLetters.flatMap (fun c d hcd => ?_) h)
  have hmeta : Pattern.isMeta c = Pattern.isMeta d := hcd.congr fun x hx =>
    (Bool.or_eq_false_iff.mp (Pattern.Parser.isAlphanum_of_isMeta hx)).1
  rw [hmeta]
  split
  · exact .cons rfl (.cons hcd .nil)
  · exact .cons hcd .nil

/-- **Quoting keeps the letters.** -/
theorem SpelledAlike.quote (h : SpelledAlike a b) :
    SpelledAlike (Shell.powershell.quote a) (Shell.powershell.quote b) := by
  refine spelledAlike_ofList (.cons rfl (SameLetters.append ?_ (SameLetters.refl _)))
  refine SameLetters.flatMap (fun c d hcd => ?_) h
  have hquote : c = '\'' ↔ d = '\'' := hcd.eq_iff rfl
  by_cases hc : c = '\''
  · rw [if_pos hc, if_pos (hquote.mp hc)]
    exact SameLetters.refl _
  · rw [if_neg hc, if_neg fun hd => hc (hquote.mpr hd)]
    exact .cons hcd .nil

end Texts

/-! ## Conditions -/

/-- Two constraints on a path differ in the case of ASCII letters only. -/
inductive PathFilter.Respelled : PathFilter → PathFilter → Prop where
  | literal {s s' : String} (h : SpelledAlike s s') : Respelled (.literal s) (.literal s')
  | pattern {p p' : Regex} (h : SpelledAlike p.source p'.source) :
    Respelled (.pattern p) (.pattern p')

/-- Two constraints on the last name differ in the case of ASCII letters only. -/
inductive NameTest.Respelled : NameTest → NameTest → Prop where
  | equals {s s' : String} (h : SpelledAlike s s') : Respelled (.equals s) (.equals s')
  | differs {s s' : String} (h : SpelledAlike s s') : Respelled (.differs s) (.differs s')
  | pattern {p p' : Regex} (h : SpelledAlike p.source p'.source) :
    Respelled (.pattern p) (.pattern p')

/--
Two conditions differ at most in the case of ASCII letters, in their root, path, directory, name or
pattern. Conditions of other kinds are the same.
-/
inductive Condition.Respelled : Condition → Condition → Prop where
  | root {s s' : String} (h : SpelledAlike s s') : Respelled (.root s) (.root s')
  | path {f f' : PathFilter} (h : f.Respelled f') : Respelled (.path f) (.path f')
  | dirname {f f' : PathFilter} (h : f.Respelled f') : Respelled (.dirname f) (.dirname f')
  | basename {t t' : NameTest} (h : t.Respelled t') : Respelled (.basename t) (.basename t')
  | fileType (k : SearchKind) : Respelled (.fileType k) (.fileType k)
  | fsType (s : String) : Respelled (.fsType s) (.fsType s)
  | depth (limit : Option Nat) : Respelled (.depth limit) (.depth limit)
  | followLinks (on : Bool) : Respelled (.followLinks on) (.followLinks on)
  | xdev (on : Bool) : Respelled (.xdev on) (.xdev on)

/-- Related options are both empty or both full. -/
theorem rel_cases {α β : Type} {R : α → β → Prop} {a : Option α} {b : Option β}
    (h : Option.Rel R a b) :
    (a = none ∧ b = none) ∨ ∃ x y, a = some x ∧ b = some y ∧ R x y := by
  cases h with
  | none => exact Or.inl ⟨rfl, rfl⟩
  | some h => exact Or.inr ⟨_, _, rfl, rfl, h⟩

namespace Condition

variable {c d : Condition} {cs ds : List Condition}

theorem Respelled.slot_eq (h : c.Respelled d) : c.slot = d.slot := by
  cases h with
  | basename h => cases h <;> rfl
  | _ => rfl

theorem slots_eq (h : List.Forall₂ Respelled cs ds) : cs.map slot = ds.map slot := by
  induction h with
  | nil => rfl
  | cons hc _ ih => rw [List.map_cons, List.map_cons, hc.slot_eq, ih]

/-- Conditions of which no two are in one slot do not conflict. -/
theorem conflict?_of_nodup (h : (cs.map slot).Nodup) : conflict? [] cs = none := by
  rw [conflict?_eq_none_iff (by intro c hc; cases hc)]
  intro c hc d hd hs
  rw [List.inj_on_of_nodup_map h hc hd hs]

/-- What is read from respelled conditions is what is read from each of them. -/
theorem rel_findSome? {α : Type} {R : α → α → Prop} {read : Condition → Option α}
    (hread : ∀ c d, Respelled c d → Option.Rel R (read c) (read d))
    (h : List.Forall₂ Respelled cs ds) : Option.Rel R (cs.findSome? read) (ds.findSome? read) := by
  induction h with
  | nil => exact .none
  | @cons c d cs ds hc _ ih =>
    rw [List.findSome?_cons, List.findSome?_cons]
    obtain ⟨hr, hr'⟩ | ⟨a, b, hr, hr', hab⟩ := rel_cases (hread c d hc) <;> rw [hr, hr']
    · exact ih
    · exact .some hab

theorem findSome?_eq {α : Type} {read : Condition → Option α}
    (hread : ∀ c d, Respelled c d → read c = read d) (h : List.Forall₂ Respelled cs ds) :
    cs.findSome? read = ds.findSome? read := by
  induction h with
  | nil => rfl
  | cons hc _ ih => rw [List.findSome?_cons, List.findSome?_cons, hread _ _ hc, ih]

end Condition

/-! ## Queries -/

/-- Two constraints on the last name, of which each is there in both, or in neither. -/
structure NameFilter.Respelled (f f' : NameFilter) : Prop where
  equals : Option.Rel SpelledAlike f.equals f'.equals
  differs : Option.Rel SpelledAlike f.differs f'.differs
  pattern : Option.Rel (fun p p' => SpelledAlike p.source p'.source) f.pattern f'.pattern

namespace Query

open Condition

/-- Two queries differ in the case of ASCII letters only. -/
structure Respelled (q q' : Query) : Prop where
  root : SpelledAlike q.root q'.root
  depth : q.depth = q'.depth
  kind : q.kind = q'.kind
  path : Option.Rel PathFilter.Respelled q.path q'.path
  dirname : Option.Rel PathFilter.Respelled q.dirname q'.dirname
  basename : q.basename.Respelled q'.basename
  fsType : q.fsType = q'.fsType
  followLinks : q.followLinks = q'.followLinks
  xdev : q.xdev = q'.xdev

variable {cs ds : List Condition} {q q' : Query} {root root' : String}

theorem respelled_assemble (h : List.Forall₂ Condition.Respelled cs ds)
    (hr : SpelledAlike root root') : (assemble cs root).Respelled (assemble ds root') where
  root := hr
  depth := congrArg (Option.getD · none) (findSome?_eq (fun c d hcd => by cases hcd <;> rfl) h)
  kind :=
    congrArg (Option.getD · SearchKind.file) (findSome?_eq (fun c d hcd => by cases hcd <;> rfl) h)
  path := by
    refine rel_findSome? (fun c d hcd => ?_) h
    cases hcd with
    | path hf => exact .some hf
    | _ => exact .none
  dirname := by
    refine rel_findSome? (fun c d hcd => ?_) h
    cases hcd with
    | dirname hf => exact .some hf
    | _ => exact .none
  basename :=
    { equals := by
        refine rel_findSome? (fun c d hcd => ?_) h
        rcases hcd with _ | _ | _ | ⟨⟨hs⟩ | _ | _⟩
        case basename.equals => exact .some hs
        all_goals exact .none
      differs := by
        refine rel_findSome? (fun c d hcd => ?_) h
        rcases hcd with _ | _ | _ | ⟨_ | ⟨hs⟩ | _⟩
        case basename.differs => exact .some hs
        all_goals exact .none
      pattern := by
        refine rel_findSome? (fun c d hcd => ?_) h
        rcases hcd with _ | _ | _ | ⟨_ | _ | ⟨hs⟩⟩
        case basename.pattern => exact .some hs
        all_goals exact .none }
  fsType := findSome?_eq (fun c d hcd => by cases hcd <;> rfl) h
  followLinks :=
    congrArg (Option.getD · false) (findSome?_eq (fun c d hcd => by cases hcd <;> rfl) h)
  xdev := congrArg (Option.getD · false) (findSome?_eq (fun c d hcd => by cases hcd <;> rfl) h)

/-- **Respelled conditions make respelled queries**, or are refused with one error. -/
theorem ofConditions_respelled (hs : (cs.map slot).Nodup)
    (h : List.Forall₂ Condition.Respelled cs ds) :
    (∃ e, ofConditions cs = .error e ∧ ofConditions ds = .error e) ∨
      ∃ q q', ofConditions cs = .ok q ∧ ofConditions ds = .ok q' ∧ q.Respelled q' := by
  have hs' : (ds.map slot).Nodup := slots_eq h ▸ hs
  have hroot : Option.Rel SpelledAlike (cs.findSome? root?) (ds.findSome? root?) := by
    refine rel_findSome? (fun c d hcd => ?_) h
    cases hcd with
    | root hr => exact .some hr
    | _ => exact .none
  have hdepth : cs.findSome? depth? = ds.findSome? depth? :=
    findSome?_eq (fun c d hcd => by cases hcd <;> rfl) h
  unfold ofConditions
  rw [conflict?_of_nodup hs, conflict?_of_nodup hs']
  obtain ⟨hr, hr'⟩ | ⟨root, root', hr, hr', halike⟩ := rel_cases hroot <;> rw [hr, hr']
  · exact Or.inl ⟨_, rfl, rfl⟩
  · have hempty : root.isEmpty = root'.isEmpty := by
      rw [Bool.eq_iff_iff, String.isEmpty_iff, String.isEmpty_iff, halike.eq_empty_iff]
    simp only
    by_cases he : root.isEmpty = true
    · rw [if_pos he, if_pos (hempty ▸ he)]
      exact Or.inl ⟨_, rfl, rfl⟩
    rw [if_neg he, if_neg (hempty ▸ he)]
    have hq := respelled_assemble h halike
    cases hd : depthOf ((cs.findSome? depth?).getD none) with
    | error e => exact Or.inl ⟨e, rfl, by rw [← hdepth, hd]; rfl⟩
    | ok limit =>
      refine Or.inr ⟨{ assemble cs root with depth := limit },
        { assemble ds root' with depth := limit }, rfl, ?_, { hq with depth := rfl }⟩
      rw [← hdepth, hd]
      rfl

/-- A root and its respelling are a drive both or neither, and lose as many delimiters. -/
theorem Respelled.normalizedRoot (h : q.Respelled q') :
    SpelledAlike (q.normalizedRoot '\\') (q'.normalizedRoot '\\') := by
  refine spelledAlike_ofList ?_
  have htrim : SameLetters (Path.dropTrailing '\\' q.root.toList)
      (Path.dropTrailing '\\' q'.root.toList) := by
    refine (h.root.reverse.dropWhile fun c d hcd => ?_).reverse
    rw [Bool.eq_iff_iff, beq_iff_eq, beq_iff_eq]
    exact hcd.eq_iff rfl
  have hdrive := htrim.reverse.head?_eq_iff (x := ':') rfl
  rw [List.head?_reverse, List.head?_reverse] at hdrive
  unfold normalizedRootText
  cases hl : Path.dropTrailing '\\' q.root.toList <;>
    cases hl' : Path.dropTrailing '\\' q'.root.toList <;> rw [hl, hl'] at htrim hdrive <;>
    cases htrim
  · exact SameLetters.refl _
  · rename_i hc hrest
    simp only [true_and, hdrive]
    split
    · exact SameLetters.append (.cons hc hrest) (SameLetters.refl _)
    · exact .cons hc hrest

end Query

/-! ## Commands -/

/-- Two pieces of a command differ in the case of ASCII letters of an argument only. -/
inductive Piece.Respelled : Piece → Piece → Prop where
  | fixed (text : String) : Respelled (.fixed text) (.fixed text)
  | arg {a b : String} (h : SpelledAlike a b) : Respelled (.arg a) (.arg b)

theorem SpelledAlike.render {l l' : List Piece} (h : List.Forall₂ Piece.Respelled l l') :
    SpelledAlike (Shell.powershell.render l) (Shell.powershell.render l') := by
  induction h with
  | nil => exact SpelledAlike.refl ""
  | cons hp _ ih =>
    cases hp with
    | fixed text => exact (SpelledAlike.refl text).append ih
    | arg ha => exact ha.quote.append ih

theorem PathFilter.Respelled.patternSource {f f' : PathFilter} (h : f.Respelled f') :
    SpelledAlike f.patternSource f'.patternSource := by
  cases h with
  | literal hs => exact ((SpelledAlike.refl "^").append hs.escape).append (SpelledAlike.refl "$")
  | pattern hp => exact hp

namespace Windows

open Piece (fixed arg)

variable {f f' : NameFilter} {g g' : PathFilter} {q q' : Query}

theorem nameSource_respelled (h : f.Respelled f') :
    Option.Rel SpelledAlike (nameSource f) (nameSource f') := by
  -- no match may begin with the excluded name, whatever is put behind that
  have hnot : ∀ (a b : String), SpelledAlike a b → ∀ s : String,
      SpelledAlike ("(?!^" ++ Pattern.escape a ++ s) ("(?!^" ++ Pattern.escape b ++ s) :=
    fun _ _ hab s => ((SpelledAlike.refl _).append hab.escape).append (SpelledAlike.refl s)
  unfold nameSource
  obtain ⟨hn, hn'⟩ | ⟨a, b, hn, hn', hab⟩ := rel_cases h.differs <;>
    obtain ⟨hp, hp'⟩ | ⟨p, p', hp, hp', hsource⟩ := rel_cases h.pattern <;>
    rw [hn, hn', hp, hp']
  · exact .none
  · exact .some hsource
  · exact .some (hnot a b hab _)
  · exact .some ((hnot a b hab _).append hsource)

theorem nameParameters_respelled (h : f.Respelled f') :
    List.Forall₂ Piece.Respelled (nameParameters f) (nameParameters f') := by
  unfold nameParameters
  refine List.rel_append ?_ ?_
  · obtain ⟨he, he'⟩ | ⟨a, b, he, he', hab⟩ := rel_cases h.equals <;> rw [he, he']
    · exact .nil
    · exact .cons (.fixed _) (.cons (.arg hab) .nil)
  · obtain ⟨hs, hs'⟩ | ⟨a, b, hs, hs', hab⟩ := rel_cases (nameSource_respelled h) <;>
      rw [hs, hs']
    · exact .nil
    · exact .cons (.fixed _) (.cons (.arg hab) .nil)

/-- **The calls for respelled queries differ in the letters of their arguments only.** -/
theorem findObjects_respelled (h : q.Respelled q') :
    List.Forall₂ Piece.Respelled (findObjects q) (findObjects q') := by
  have hcall : ∀ command, List.Forall₂ Piece.Respelled
      (call command (q.normalizedRoot '\\')) (call command (q'.normalizedRoot '\\')) := fun _ =>
    .cons (.fixed _) (.cons (.arg h.normalizedRoot) .nil)
  have hpattern : ∀ {g g' : PathFilter}, g.Respelled g' →
      List.Forall₂ Piece.Respelled (patternParameter g) (patternParameter g') := fun hg =>
    .cons (.fixed _) (.cons (.arg hg.patternSource) .nil)
  have hnames := nameParameters_respelled h.basename
  unfold findObjects Query.branch
  rw [← h.kind]
  obtain ⟨hp, hp'⟩ | ⟨g, g', hp, hp', hg⟩ := rel_cases h.path <;> rw [hp, hp']
  · obtain ⟨hd, hd'⟩ | ⟨g, g', hd, hd', hg⟩ := rel_cases h.dirname <;> rw [hd, hd']
    · cases q.kind with
      | directory => exact hcall _
      | _ => exact List.rel_append (hcall _) hnames
    · cases q.kind with
      | directory => exact List.rel_append (hcall _) (hpattern hg)
      | _ =>
        exact List.rel_append (List.rel_append (hcall _) (hpattern hg)) (.cons (.fixed _) hnames)
  · cases q.kind <;> exact List.rel_append (hcall _) (hpattern hg)

/-- Respelled queries are refused alike, or have commands that are spelled alike. -/
theorem compile_respelled (h : q.Respelled q') :
    (∃ e, compile q = .error e ∧ compile q' = .error e) ∨
      ∃ c c', compile q = .ok c ∧ compile q' = .ok c' ∧ SpelledAlike c.command c'.command ∧
        c.cacheKey = c'.cacheKey := by
  unfold compile
  rw [← h.followLinks, ← h.kind]
  split
  · exact Or.inl ⟨_, rfl, rfl⟩
  · split
    · exact Or.inl ⟨_, rfl, rfl⟩
    · have hcommand : SpelledAlike (Shell.powershell.render (searchPieces q))
          (Shell.powershell.render (searchPieces q')) := by
        refine SpelledAlike.render (List.rel_append (findObjects_respelled h) ?_)
        rw [← h.depth]
        exact .cons (.fixed _) .nil
      exact Or.inr ⟨_, _, rfl, rfl, hcommand, congrArg String.ofList hcommand.upperText_eq⟩

variable {cs ds : List Condition}

/--
**Two spellings of a search share a key.** Of two lists of conditions that differ in the case of
ASCII letters only, in whatever root, path, directory, name or pattern they have, both are refused
with one error, or both are compiled, to commands that differ in the case of letters only and to one
key. No two conditions of a list may be in one slot: such conditions agree only if they are spelled
alike.
-/
theorem spellings_share_a_key (hslots : (cs.map Condition.slot).Nodup)
    (h : List.Forall₂ Condition.Respelled cs ds) :
    (∃ e, Platform.windows.compileConditions cs = .error e ∧
        Platform.windows.compileConditions ds = .error e) ∨
      ∃ c d, Platform.windows.compileConditions cs = .ok c ∧
        Platform.windows.compileConditions ds = .ok d ∧ SpelledAlike c.command d.command ∧
          c.cacheKey = d.cacheKey := by
  unfold Platform.compileConditions
  obtain ⟨e, he, he'⟩ | ⟨q, q', hq, hq', hqq⟩ := Query.ofConditions_respelled hslots h
  · rw [he, he']
    exact Or.inl ⟨e, rfl, rfl⟩
  · rw [hq, hq']
    exact compile_respelled hqq

/-- Files but one, below directories with names that end in a pattern, in two spellings. -/
theorem spellings_of_logs_share_a_key :
    ∃ p p' : Regex, p.source = "\\\\logs$" ∧ p'.source = "\\\\LOGS$" ∧
      let cs : List Condition :=
        [.root "C:\\Temp\\", .dirname (.pattern p), .basename (.differs "Old's.log")]
      let ds : List Condition :=
        [.root "c:\\TEMP\\", .dirname (.pattern p'), .basename (.differs "OLD'S.log")]
      (cs.map Condition.slot).Nodup ∧ List.Forall₂ Condition.Respelled cs ds ∧
        ∃ c d, Platform.windows.compileConditions cs = .ok c ∧
          Platform.windows.compileConditions ds = .ok d ∧ c.cacheKey = d.cacheKey := by
  obtain ⟨p, hp⟩ := Regex.exists_source "\\\\logs$" (by decide +kernel)
  obtain ⟨p', hp'⟩ := Regex.exists_source "\\\\LOGS$" (by decide +kernel)
  refine ⟨p, p', hp, hp', ?_⟩
  intro cs ds
  have hslots : (cs.map Condition.slot).Nodup := by
    show [(Field.root, none), (.dirname, none), (.basename, some Comparison.inequality)].Nodup
    decide
  have hsource : SpelledAlike p.source p'.source := by
    rw [hp, hp']
    decide
  have h : List.Forall₂ Condition.Respelled cs ds :=
    .cons (.root (by decide)) (.cons (.dirname (.pattern hsource))
      (.cons (.basename (.differs (by decide))) .nil))
  have hok : ∃ c, Platform.windows.compileConditions cs = .ok c := ⟨_, rfl⟩
  refine ⟨hslots, h, ?_⟩
  obtain ⟨e, he, -⟩ | ⟨c, d, hc, hd, -, hkey⟩ := spellings_share_a_key hslots h
  · obtain ⟨c, hc⟩ := hok
    cases hc.symm.trans he
  · exact ⟨c, d, hc, hd, hkey⟩

end Windows

end RemoteSearch

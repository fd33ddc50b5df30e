import RemoteSearch.Proofs.Text.Upper
import RemoteSearch.Shell

/-!
# Reading commands back

A PowerShell command is fixed text with quoted arguments in it. As long as the fixed text has no
quotes, and some of it stands between any two arguments, a command can be cut into these parts in
one way only. This holds up to any relation of characters that respects the quote (`reading_unique`),
and so for equality and for changes of case alike.
-/

namespace RemoteSearch.Windows

open Text.Case Shell

/-- A command in parts: arguments with the fixed text before each, and the fixed text at the end. -/
@[ext]
structure Parts where
  arguments : List (List Char × List Char)
  last : List Char
  deriving Repr, DecidableEq

/-- The parts of a command whose pieces come after some fixed text. -/
def partsFrom (text : List Char) : List Piece → Parts
  | [] => ⟨[], text⟩
  | .fixed t :: l => partsFrom (text ++ t.toList) l
  | .arg a :: l => ⟨(text, a.toList) :: (partsFrom [] l).arguments, (partsFrom [] l).last⟩

/-- The parts of a command. -/
def parts (l : List Piece) : Parts := partsFrom [] l

namespace Parts

/-- The text of a command in parts. -/
def write (p : Parts) : List Char :=
  p.arguments.foldr (fun x s => x.1 ++ (quotePowerShell x.2 ++ s)) p.last

@[simp] theorem write_nil (last : List Char) : write ⟨[], last⟩ = last := rfl

@[simp] theorem write_cons (x : List Char × List Char) (l : List (List Char × List Char))
    (last : List Char) :
    write ⟨x :: l, last⟩ = x.1 ++ (quotePowerShell x.2 ++ write ⟨l, last⟩) := rfl

/-- Fixed text that can be told from what is around it. -/
def IsFixed (l : List Char) : Prop := l ≠ [] ∧ '\'' ∉ l

/-- All fixed text of the command can be told from its arguments. -/
def IsReadable (p : Parts) : Prop := (∀ x ∈ p.arguments, IsFixed x.1) ∧ IsFixed p.last

/-- The parts in upper case. -/
def upper (p : Parts) : Parts :=
  ⟨p.arguments.map fun x => (upperText x.1, upperText x.2), upperText p.last⟩

end Parts

/-- The pieces of a command make the text of its parts. -/
theorem write_partsFrom (text : List Char) (l : List Piece) :
    (partsFrom text l).write = text ++ (Shell.powershell.render l).toList := by
  induction l generalizing text with
  | nil => simp [partsFrom, Shell.render]
  | cons p l ih =>
    cases p with
    | fixed t =>
      rw [partsFrom, ih]
      simp [Shell.render, Piece.render]
    | arg a =>
      have h := ih []
      rw [List.nil_append] at h
      rw [partsFrom, Parts.write_cons, h]
      simp [Shell.render, Piece.render, Shell.quote]

theorem write_parts (l : List Piece) : (parts l).write = (Shell.powershell.render l).toList := by
  simp [parts, write_partsFrom]

/-! ## Upper case in parts -/

theorem upperText_replaceChar (l : List Char) :
    upperText (replaceChar '\'' ['\'', '\''] l) =
      replaceChar '\'' ['\'', '\''] (upperText l) := by
  induction l with
  | nil => rfl
  | cons c l ih =>
    have hl : replaceChar '\'' ['\'', '\''] (c :: l) =
        (if c = '\'' then ['\'', '\''] else [c]) ++ replaceChar '\'' ['\'', '\''] l := rfl
    rw [hl, upperText_append, ih, upperText_cons, replaceChar_append]
    by_cases hc : c = '\''
    · subst hc
      rfl
    · have hn : '\'' ∉ upperOf c := fun h => hc (quote_mem_upperOf.mp h)
      rw [if_neg hc, replaceChar_of_notMem hn]
      simp [upperText]

theorem upperText_quotePowerShell (l : List Char) :
    upperText (quotePowerShell l) = quotePowerShell (upperText l) := by
  have hq : upperText ['\''] = ['\''] := rfl
  unfold quotePowerShell
  rw [List.cons_append, upperText_cons, upperOf_quote, upperText_append, upperText_replaceChar, hq]
  rfl

/-- Upper-casing a command is upper-casing its parts. -/
theorem write_upper (p : Parts) : p.upper.write = upperText p.write := by
  obtain ⟨l, last⟩ := p
  induction l with
  | nil => rfl
  | cons x l ih =>
    have ih' : Parts.write ⟨l.map fun x => (upperText x.1, upperText x.2), upperText last⟩ =
        upperText (Parts.write ⟨l, last⟩) := ih
    simp only [Parts.upper, List.map_cons, Parts.write_cons, upperText_append,
      upperText_quotePowerShell, ih']

theorem isReadable_upper {p : Parts} (h : p.IsReadable) : p.upper.IsReadable := by
  have hf : ∀ {l}, Parts.IsFixed l → Parts.IsFixed (upperText l) := fun hl =>
    ⟨fun hn => hl.1 (upperText_eq_nil_iff.mp hn), fun hq => hl.2 (quote_mem_upperText.mp hq)⟩
  refine ⟨fun x hx => ?_, hf h.2⟩
  obtain ⟨y, hy, rfl⟩ := List.mem_map.mp hx
  exact hf (h.1 y hy)

/-! ## Unique reading -/

section Reading

variable {R : Char → Char → Prop} {a b x y : List Char}

/-- Fixed text ends where the first quote is. -/
theorem fixed_unique (hR : ∀ c d, R c d → (c = '\'' ↔ d = '\'')) (ha : '\'' ∉ a) (hb : '\'' ∉ b)
    (h : List.Forall₂ R (a ++ '\'' :: x) (b ++ '\'' :: y)) :
    List.Forall₂ R a b ∧ List.Forall₂ R x y := by
  induction a generalizing b with
  | nil =>
    cases b with
    | nil =>
      cases h with
      | cons _ ht => exact ⟨.nil, ht⟩
    | cons d b =>
      cases h with
      | cons hd _ => exact absurd ((hR _ _ hd).mp rfl) fun he => hb (he ▸ List.mem_cons_self)
  | cons c a ih =>
    cases b with
    | nil =>
      cases h with
      | cons hc _ => exact absurd ((hR _ _ hc).mpr rfl) fun he => ha (he ▸ List.mem_cons_self)
    | cons d b =>
      cases h with
      | cons hc ht =>
        obtain ⟨h1, h2⟩ := ih (fun hm => ha (List.mem_cons_of_mem c hm))
          (fun hm => hb (List.mem_cons_of_mem d hm)) ht
        exact ⟨.cons hc h1, h2⟩

theorem replaceChar_cons_self (l : List Char) :
    replaceChar '\'' ['\'', '\''] ('\'' :: l) =
      '\'' :: '\'' :: replaceChar '\'' ['\'', '\''] l := rfl

theorem replaceChar_cons_of_ne {c : Char} (hc : c ≠ '\'') (l : List Char) :
    replaceChar '\'' ['\'', '\''] (c :: l) = c :: replaceChar '\'' ['\'', '\''] l := by
  have h : replaceChar '\'' ['\'', '\''] (c :: l) =
      (if c = '\'' then ['\'', '\''] else [c]) ++ replaceChar '\'' ['\'', '\''] l := rfl
  rw [h, if_neg hc]
  rfl

/-- After the quote that ends an argument there is no second one. -/
theorem not_forall₂_quote (hR : ∀ c d, R c d → (c = '\'' ↔ d = '\'')) (hx : x.head? ≠ some '\'')
    (h : List.Forall₂ R x ('\'' :: y)) : False := by
  cases h with
  | cons hc _ =>
    rw [(hR _ _ hc).mpr rfl] at hx
    exact hx rfl

/-- **An argument ends at the first quote that is not doubled.** -/
theorem argument_unique (hR : ∀ c d, R c d → (c = '\'' ↔ d = '\'')) (hx : x.head? ≠ some '\'')
    (hy : y.head? ≠ some '\'')
    (h : List.Forall₂ R (replaceChar '\'' ['\'', '\''] a ++ '\'' :: x)
      (replaceChar '\'' ['\'', '\''] b ++ '\'' :: y)) :
    List.Forall₂ R a b ∧ List.Forall₂ R x y := by
  have hflip : ∀ c d, flip R c d → (c = '\'' ↔ d = '\'') := fun c d hcd => (hR d c hcd).symm
  induction a generalizing b with
  | nil =>
    cases b with
    | nil =>
      cases h with
      | cons _ ht => exact ⟨.nil, ht⟩
    | cons d b =>
      by_cases hd : d = '\''
      · subst hd
        rw [replaceChar_cons_self] at h
        cases h with
        | cons _ ht => exact (not_forall₂_quote hR hx ht).elim
      · rw [replaceChar_cons_of_ne hd] at h
        cases h with
        | cons hc _ => exact absurd ((hR _ _ hc).mp rfl) hd
  | cons c a ih =>
    by_cases hc : c = '\''
    · subst hc
      rw [replaceChar_cons_self] at h
      cases b with
      | nil =>
        cases h with
        | cons _ ht => exact (not_forall₂_quote hflip hy ht.flip).elim
      | cons d b =>
        by_cases hd : d = '\''
        · subst hd
          rw [replaceChar_cons_self] at h
          cases h with
          | cons hq ht =>
            cases ht with
            | cons _ ht =>
              obtain ⟨h1, h2⟩ := ih ht
              exact ⟨.cons hq h1, h2⟩
        · rw [replaceChar_cons_of_ne hd] at h
          cases h with
          | cons hq _ => exact absurd ((hR _ _ hq).mp rfl) hd
    · rw [replaceChar_cons_of_ne hc] at h
      cases b with
      | nil =>
        cases h with
        | cons hq _ => exact absurd ((hR _ _ hq).mpr rfl) hc
      | cons d b =>
        by_cases hd : d = '\''
        · subst hd
          rw [replaceChar_cons_self] at h
          cases h with
          | cons hq _ => exact absurd ((hR _ _ hq).mpr rfl) hc
        · rw [replaceChar_cons_of_ne hd] at h
          cases h with
          | cons hq ht =>
            obtain ⟨h1, h2⟩ := ih ht
            exact ⟨.cons hq h1, h2⟩

/-- Texts related in every place both have quotes or both have none. -/
theorem quote_mem_of_forall₂ (hR : ∀ c d, R c d → (c = '\'' ↔ d = '\''))
    (h : List.Forall₂ R a b) (hb : '\'' ∈ b) : '\'' ∈ a := by
  induction h with
  | nil => exact hb
  | @cons c d a b hcd _ ih =>
    rcases List.mem_cons.mp hb with he | hm
    · rw [(hR _ _ hcd).mpr he.symm]
      exact List.mem_cons_self
    · exact List.mem_cons_of_mem c (ih hm)

/-- What comes after an argument begins with fixed text. -/
theorem head?_write {p : Parts} (h : p.IsReadable) : p.write.head? ≠ some '\'' := by
  have hf : ∀ {l s : List Char}, Parts.IsFixed l → (l ++ s).head? ≠ some '\'' := by
    rintro l s ⟨hne, hq⟩ hh
    cases l with
    | nil => exact hne rfl
    | cons c l =>
      cases hh
      exact hq List.mem_cons_self
  obtain ⟨l, last⟩ := p
  cases l with
  | nil =>
    have hl := hf (s := []) h.2
    rwa [List.append_nil] at hl
  | cons x l => exact hf (h.1 x List.mem_cons_self)

/-- Text with an argument in it is not related to fixed text. -/
theorem not_forall₂_fixed (hR : ∀ c d, R c d → (c = '\'' ↔ d = '\'')) {last : List Char}
    {p : Parts} {z : List Char × List Char} (hl : '\'' ∉ last) :
    ¬List.Forall₂ R last (Parts.write ⟨z :: p.arguments, p.last⟩) := by
  intro h
  refine hl (quote_mem_of_forall₂ hR h ?_)
  simp [quotePowerShell]

/--
**A command can be cut into its parts in one way only.** Two commands that are related in every
place have related parts: as many arguments, related one by one, with related text around them.
-/
theorem reading_unique (hR : ∀ c d, R c d → (c = '\'' ↔ d = '\'')) {p p' : Parts}
    (hp : p.IsReadable) (hp' : p'.IsReadable) (h : List.Forall₂ R p.write p'.write) :
    List.Forall₂ (fun x y => List.Forall₂ R x.1 y.1 ∧ List.Forall₂ R x.2 y.2)
        p.arguments p'.arguments ∧ List.Forall₂ R p.last p'.last := by
  have hflip : ∀ c d, flip R c d → (c = '\'' ↔ d = '\'') := fun c d hcd => (hR d c hcd).symm
  obtain ⟨l, last⟩ := p
  obtain ⟨l', last'⟩ := p'
  induction l generalizing l' with
  | nil =>
    cases l' with
    | nil => exact ⟨.nil, h⟩
    | cons z l' => exact absurd h (not_forall₂_fixed (p := ⟨l', last'⟩) hR hp.2.2)
  | cons z l ih =>
    cases l' with
    | nil => exact absurd h.flip (not_forall₂_fixed (p := ⟨l, last⟩) hflip hp'.2.2)
    | cons z' l' =>
      have hrest : Parts.IsReadable ⟨l, last⟩ :=
        ⟨fun x hx => hp.1 x (List.mem_cons_of_mem z hx), hp.2⟩
      have hrest' : Parts.IsReadable ⟨l', last'⟩ :=
        ⟨fun x hx => hp'.1 x (List.mem_cons_of_mem z' hx), hp'.2⟩
      simp only [Parts.write_cons, quotePowerShell, List.cons_append, List.append_assoc,
        List.nil_append] at h
      obtain ⟨htext, h1⟩ := fixed_unique hR (hp.1 z List.mem_cons_self).2
        (hp'.1 z' List.mem_cons_self).2 h
      obtain ⟨harg, h2⟩ := argument_unique hR (head?_write hrest) (head?_write hrest') h1
      obtain ⟨h3, h4⟩ := ih hrest l' hrest' h2
      exact ⟨.cons ⟨htext, harg⟩ h3, h4⟩

/-- Commands are equal exactly if their parts are. -/
theorem write_inj {p p' : Parts} (hp : p.IsReadable) (hp' : p'.IsReadable) :
    p.write = p'.write ↔ p = p' := by
  constructor
  · intro h
    have hR : ∀ c d : Char, c = d → (c = '\'' ↔ d = '\'') := fun c d hcd => by rw [hcd]
    have hw : List.Forall₂ Eq p.write p'.write := by
      rw [List.forall₂_eq_eq_eq]
      exact h
    obtain ⟨hargs, hlast⟩ := reading_unique hR hp hp' hw
    simp only [List.forall₂_eq_eq_eq, ← Prod.ext_iff] at hargs hlast
    exact Parts.ext hargs hlast
  · rintro rfl
    rfl

/-- Related texts have related literals. -/
theorem forall₂_quotePowerShell (hR : ∀ c d, R c d → (c = '\'' ↔ d = '\'')) (hq : R '\'' '\'')
    (h : List.Forall₂ R a b) : List.Forall₂ R (quotePowerShell a) (quotePowerShell b) := by
  have hbody : List.Forall₂ R (replaceChar '\'' ['\'', '\''] a)
      (replaceChar '\'' ['\'', '\''] b) := by
    induction h with
    | nil => exact .nil
    | @cons c d a b hcd _ ih =>
      by_cases hc : c = '\''
      · obtain rfl := (hR c d hcd).mp hc
        subst hc
        rw [replaceChar_cons_self, replaceChar_cons_self]
        exact .cons hq (.cons hq ih)
      · have hd : d ≠ '\'' := fun hd => hc ((hR c d hcd).mpr hd)
        rw [replaceChar_cons_of_ne hc, replaceChar_cons_of_ne hd]
        exact .cons hcd ih
  exact .cons hq (List.rel_append hbody (.cons hq .nil))

/-- Commands with related parts are related. -/
theorem forall₂_write (hR : ∀ c d, R c d → (c = '\'' ↔ d = '\'')) (hq : R '\'' '\'') {p p' : Parts}
    (h : List.Forall₂ (fun x y => List.Forall₂ R x.1 y.1 ∧ List.Forall₂ R x.2 y.2)
      p.arguments p'.arguments) (hlast : List.Forall₂ R p.last p'.last) :
    List.Forall₂ R p.write p'.write := by
  obtain ⟨l, last⟩ := p
  obtain ⟨l', last'⟩ := p'
  change List.Forall₂ _ l l' at h
  induction h with
  | nil => exact hlast
  | cons hxy _ ih =>
    rw [Parts.write_cons, Parts.write_cons]
    have hrest := ih hlast
    exact List.rel_append hxy.1 (List.rel_append (forall₂_quotePowerShell hR hq hxy.2) hrest)

end Reading

/-! ## Spaced pieces -/

/-- A character that fixed text may have: it is no quote, and its upper case is no matter. -/
def IsPlainChar (c : Char) : Prop := c ≠ '\'' ∧ c.toNat < 0x80

instance (c : Char) : Decidable (IsPlainChar c) := inferInstanceAs (Decidable (_ ∧ _))

/-- Text that has plain characters only. -/
def IsPlain (text : List Char) : Prop := ∀ c ∈ text, IsPlainChar c

instance (text : List Char) : Decidable (IsPlain text) := List.decidableBAll IsPlainChar text

theorem isPlain_nil : IsPlain [] := by simp [IsPlain]

theorem IsPlain.append {text text' : List Char} (h : IsPlain text) (h' : IsPlain text') :
    IsPlain (text ++ text') := by
  intro c hc
  rcases List.mem_append.mp hc with hc | hc
  · exact h c hc
  · exact h' c hc

/--
Some plain text stands before every argument and at the end. `after` tells whether there is some
before the pieces already.
-/
def IsSpaced (after : Bool) : List Piece → Prop
  | [] => after = true
  | .fixed t :: l => (t.toList ≠ [] ∧ IsPlain t.toList) ∧ IsSpaced true l
  | .arg _ :: l => after = true ∧ IsSpaced false l

theorem IsSpaced.weaken {l : List Piece} (h : IsSpaced false l) (after : Bool) :
    IsSpaced after l := by
  cases l with
  | nil => cases h
  | cons p l =>
    cases p with
    | fixed t => exact h
    | arg a => cases h.1

/-- The fixed text in the parts of spaced pieces is plain, and there is some in each place. -/
theorem plain_of_isSpaced (text : List Char) {after : Bool} {l : List Piece}
    (ht : IsPlain text) (ha : after = true → text ≠ []) (h : IsSpaced after l) :
    (∀ x ∈ (partsFrom text l).arguments, x.1 ≠ [] ∧ IsPlain x.1) ∧
      (partsFrom text l).last ≠ [] ∧ IsPlain (partsFrom text l).last := by
  induction l generalizing text after with
  | nil => exact ⟨by simp [partsFrom], ha h, ht⟩
  | cons p l ih =>
    cases p with
    | fixed t =>
      obtain ⟨⟨hne, hplain⟩, hl⟩ := h
      exact ih _ (ht.append hplain) (fun _ hn => hne (List.append_eq_nil_iff.mp hn).2) hl
    | arg a =>
      obtain ⟨hb, hl⟩ := h
      obtain ⟨h1, h2⟩ := ih [] isPlain_nil (by simp) hl
      refine ⟨fun x hx => ?_, h2⟩
      rcases List.mem_cons.mp hx with rfl | hx
      · exact ⟨ha hb, ht⟩
      · exact h1 x hx

/-- **Commands of spaced pieces can be read back.** -/
theorem isReadable_parts {l : List Piece} (h : IsSpaced false l) : (parts l).IsReadable := by
  have hf : ∀ {t : List Char}, (t ≠ [] ∧ IsPlain t) → Parts.IsFixed t :=
    fun ht => ⟨ht.1, fun hq => (ht.2 _ hq).1 rfl⟩
  obtain ⟨h1, h2⟩ := plain_of_isSpaced [] isPlain_nil (by simp) h
  exact ⟨fun x hx => hf (h1 x hx), hf h2⟩

end RemoteSearch.Windows

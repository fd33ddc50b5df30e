import RemoteSearch.Proofs.Windows.Reading

/-!
# Literals of PowerShell

How PowerShell reads a text in single quotes, and which texts it reads back from the literal that is
written for them. Five characters count as a single quote there, while only the straight one is
doubled when a literal is written. So a text is read back exactly if it has no other one of the five
in it (`literal_reads_back_iff`); a typographic quote ends the literal early, or makes one quote
with the quote behind it.
-/

namespace RemoteSearch.Windows

open Shell

variable {text value l rest : List Char}

/-! ## Reading -/

/-- The characters that PowerShell takes for a single quote: the straight one and four others. -/
def isSingleQuote (c : Char) : Bool :=
  ['\'', '\u2018', '\u2019', '\u201A', '\u201B'].contains c

/--
What stands in a literal after the quote that begins it, and the text after the literal. A quote
ends it unless a second one follows: two are one quote of the text, the one that comes second.
-/
def readInside : List Char → Option (List Char × List Char)
  | [] => none
  | [c] => if isSingleQuote c then some ([], []) else none
  | c :: d :: r =>
    if isSingleQuote c then
      if isSingleQuote d then (readInside r).map fun (text, rest) => (d :: text, rest)
      else some ([], d :: r)
    else (readInside (d :: r)).map fun (text, rest) => (c :: text, rest)

/-- The text of the literal that a command goes on with, and the rest of the command. -/
def readLiteral : List Char → Option (List Char × List Char)
  | [] => none
  | c :: r => if isSingleQuote c then readInside r else none

theorem readInside_cons {c : Char} (hc : isSingleQuote c = false) (l : List Char) :
    readInside (c :: l) = (readInside l).map fun (text, rest) => (c :: text, rest) := by
  cases l with
  | nil => simp [readInside, hc]
  | cons d r => rw [readInside, hc, if_neg Bool.false_ne_true]

theorem readInside_pair {c d : Char} (hc : isSingleQuote c = true) (hd : isSingleQuote d = true)
    (l : List Char) :
    readInside (c :: d :: l) = (readInside l).map fun (text, rest) => (d :: text, rest) := by
  rw [readInside, if_pos hc, if_pos hd]

/-- Whether a command goes on with a quote. -/
def GoesOnQuoted (rest : List Char) : Prop := rest.head?.any isSingleQuote = true

instance (rest : List Char) : Decidable (GoesOnQuoted rest) :=
  inferInstanceAs (Decidable (_ = true))

theorem readInside_end (h : ¬GoesOnQuoted rest) : readInside ('\'' :: rest) = some ([], rest) := by
  cases rest with
  | nil => rfl
  | cons d r =>
    have hd : isSingleQuote d = false := Bool.eq_false_iff.mpr h
    have hq : isSingleQuote '\'' = true := rfl
    rw [readInside, if_pos hq, hd, if_neg Bool.false_ne_true]

/-! ## Texts that are read back -/

/-- Whether all single quotes of a text are straight. -/
def IsStraight (text : List Char) : Prop := ∀ c ∈ text, isSingleQuote c = true → c = '\''

instance (text : List Char) : Decidable (IsStraight text) :=
  List.decidableBAll (fun c => isSingleQuote c = true → c = '\'') text

/-- A text with straight quotes only is read back, up to the quote at its end. -/
theorem readInside_of_isStraight (ht : IsStraight text) (h : ¬GoesOnQuoted rest) :
    readInside (replaceChar '\'' ['\'', '\''] text ++ '\'' :: rest) = some (text, rest) := by
  induction text with
  | nil => exact readInside_end h
  | cons c text ih =>
    have hrest := ih fun x hx => ht x (List.mem_cons_of_mem c hx)
    by_cases hc : c = '\''
    · subst hc
      rw [replaceChar_cons_self, List.cons_append, List.cons_append, readInside_pair rfl rfl, hrest]
      rfl
    · have hq : isSingleQuote c = false :=
        Bool.eq_false_iff.mpr fun hq => hc (ht c List.mem_cons_self hq)
      rw [replaceChar_cons_of_ne hc, List.cons_append, readInside_cons hq, hrest]
      rfl

/--
What was read up to the end of a literal: a text of which every quote is written with two, and a
quote. So the length of the text tells how many quotes were there.
-/
theorem consumed_of_readInside (h : readInside l = some (value, rest)) :
    ∃ written q, l = written ++ q :: rest ∧
      2 * value.length + written.countP isSingleQuote = 2 * written.length := by
  fun_induction readInside l generalizing value with
  | case1 => cases h
  | case2 c hc =>
    cases h
    exact ⟨[], c, rfl, rfl⟩
  | case3 => cases h
  | case4 c d r hc hd ih =>
    obtain ⟨⟨v, rest'⟩, hr, he⟩ := Option.map_eq_some_iff.mp h
    cases he
    obtain ⟨written, q, rfl, hlen⟩ := ih hr
    refine ⟨c :: d :: written, q, rfl, ?_⟩
    simp only [List.length_cons, List.countP_cons, hc, hd, if_true]
    omega
  | case5 c d r hc hd =>
    cases h
    exact ⟨[], c, rfl, rfl⟩
  | case6 c d r hc ih =>
    obtain ⟨⟨v, rest'⟩, hr, he⟩ := Option.map_eq_some_iff.mp h
    cases he
    obtain ⟨written, q, hw, hlen⟩ := ih hr
    refine ⟨c :: written, q, by rw [hw]; rfl, ?_⟩
    rw [List.length_cons, List.length_cons, List.countP_cons_of_neg hc]
    omega

theorem length_doubled (text : List Char) :
    (replaceChar '\'' ['\'', '\''] text).length = text.length + text.count '\'' := by
  induction text with
  | nil => rfl
  | cons c text ih =>
    by_cases hc : c = '\''
    · subst hc
      simp only [replaceChar_cons_self, List.length_cons, List.count_cons_self, ih]
      omega
    · rw [replaceChar_cons_of_ne hc, List.length_cons, List.length_cons, ih,
        List.count_cons_of_ne hc]
      omega

theorem countP_doubled (text : List Char) :
    (replaceChar '\'' ['\'', '\''] text).countP isSingleQuote =
      text.countP isSingleQuote + text.count '\'' := by
  induction text with
  | nil => rfl
  | cons c text ih =>
    by_cases hc : c = '\''
    · subst hc
      have hq : isSingleQuote '\'' = true := rfl
      simp only [replaceChar_cons_self, List.countP_cons, List.count_cons_self, ih, hq, if_true]
      omega
    · rw [replaceChar_cons_of_ne hc, List.countP_cons, List.countP_cons, ih,
        List.count_cons_of_ne hc]
      omega

/-- A text has only straight quotes if it has no more quotes than straight ones. -/
theorem isStraight_of_countP (h : text.countP isSingleQuote = text.count '\'') :
    IsStraight text := by
  induction text with
  | nil => simp [IsStraight]
  | cons c text ih =>
    have hle : text.count '\'' ≤ text.countP isSingleQuote :=
      List.countP_mono_left fun x _ hx => by rw [eq_of_beq hx]; rfl
    by_cases hq : isSingleQuote c = true
    · by_cases hc : c = '\''
      · subst hc
        rw [List.countP_cons_of_pos hq, List.count_cons_self] at h
        simpa [IsStraight] using ih (Nat.succ.inj h)
      · rw [List.countP_cons_of_pos hq, List.count_cons_of_ne hc] at h
        omega
    · have hc : c ≠ '\'' := fun hc => hq (by rw [hc]; rfl)
      rw [List.countP_cons_of_neg hq, List.count_cons_of_ne hc] at h
      simpa [IsStraight, hq] using ih h

/--
**Which texts are read back from their literals.** Take any text, and any rest of a command that
does not go on with a quote right behind the literal, such as a blank or nothing at all. PowerShell
reads the literal for the text as a single one that ends where it ends, with the text as its value,
exactly if the text has no other single quotes than straight ones.
-/
theorem literal_reads_back_iff (text : String) {rest : List Char} (h : ¬GoesOnQuoted rest) :
    readLiteral ((Shell.powershell.quote text).toList ++ rest) = some (text.toList, rest) ↔
      IsStraight text.toList := by
  have hquote : readLiteral ((Shell.powershell.quote text).toList ++ rest) =
      readInside (replaceChar '\'' ['\'', '\''] text.toList ++ '\'' :: rest) := by
    simp [Shell.quote, quotePowerShell, readLiteral, isSingleQuote]
  rw [hquote]
  constructor
  · intro hr
    obtain ⟨written, q, hw, hlen⟩ := consumed_of_readInside hr
    have hl : (replaceChar '\'' ['\'', '\''] text.toList).length = written.length := by
      have := congrArg List.length hw
      simp only [List.length_append, List.length_cons] at this
      omega
    obtain ⟨rfl, -⟩ := List.append_inj hw hl
    rw [length_doubled, countP_doubled] at hlen
    exact isStraight_of_countP (by omega)
  · exact fun ht => readInside_of_isStraight ht h

/-- A text with straight quotes is read back, with the command going on after it. -/
theorem straight_quotes_read_back :
    ¬GoesOnQuoted " -Depth -1".toList ∧
      readLiteral ((Shell.powershell.quote "C:\\it's ''here").toList ++ " -Depth -1".toList) =
        some ("C:\\it's ''here".toList, " -Depth -1".toList) := by
  have hrest : ¬GoesOnQuoted " -Depth -1".toList := by decide
  exact ⟨hrest, (literal_reads_back_iff _ hrest).mpr (by decide)⟩

/-- **A typographic quote ends its literal early**, and what follows it is no text any more. -/
theorem typographic_quote_ends_literal :
    readLiteral (Shell.powershell.quote "\u2019; Remove-Item C:\\ #").toList =
      some ([], "; Remove-Item C:\\ #'".toList) := by
  decide

end RemoteSearch.Windows

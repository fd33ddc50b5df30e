import RemoteSearch.Shell
import RemoteSearch.Shell.Token

/-!
# Reading POSIX commands

How the lexer reads a command that is put together from pieces. Between two pieces it is in a word
(`AfterWord`) or between words (`AfterBlank`), and in both cases it is enough to know the tokens
that have been read. What a piece adds to them is stated once for each kind of piece, and for a text
that is quoted as an argument it is one word, whatever the text is (`begins_quotePosix`).
-/

namespace RemoteSearch.Shell

variable {T toks toks' : List Token} {s : Lexer} {l l' a : List Char}

/-! ## Between pieces -/

/-- The tokens so far are those of a list; the last one is a word, and may go on. -/
def AfterWord (T : List Token) (s : Lexer) : Prop :=
  ∃ parts tokens, T = (.word parts.reverse :: tokens).reverse ∧
    s = { mode := .inWord, parts, tokens }

/-- The tokens so far are those of a list, and none is begun. -/
def AfterBlank (T : List Token) (s : Lexer) : Prop :=
  s = { mode := .between, parts := [], tokens := T.reverse }

/-- Text that adds tokens to those before it; the last of them is a word, before and after it. -/
def Adds (l : List Char) (toks : List Token) : Prop :=
  ∀ T s, AfterWord T s → AfterWord (T ++ toks) (s.run l)

/-- Text that adds tokens, and then ends with a blank. -/
def Opens (l : List Char) (toks : List Token) : Prop :=
  ∀ T s, AfterWord T s → AfterBlank (T ++ toks) (s.run l)

/-- Text that adds tokens after a blank; the last of them is a word. -/
def Begins (l : List Char) (toks : List Token) : Prop :=
  ∀ T s, AfterBlank T s → AfterWord (T ++ toks) (s.run l)

theorem adds_nil : Adds [] [] := by
  intro T s h
  rw [List.append_nil]
  exact h

theorem Adds.append (h : Adds l toks) (h' : Adds l' toks') : Adds (l ++ l') (toks ++ toks') := by
  intro T s hs
  rw [Lexer.run_append, ← List.append_assoc]
  exact h' _ _ (h _ _ hs)

theorem Opens.append (h : Opens l toks) (h' : Begins l' toks') :
    Adds (l ++ l') (toks ++ toks') := by
  intro T s hs
  rw [Lexer.run_append, ← List.append_assoc]
  exact h' _ _ (h _ _ hs)

theorem Begins.append (h : Begins l toks) (h' : Adds l' toks') :
    Begins (l ++ l') (toks ++ toks') := by
  intro T s hs
  rw [Lexer.run_append, ← List.append_assoc]
  exact h' _ _ (h _ _ hs)

theorem Adds.opens (h : Adds l toks) (h' : Opens l' toks') :
    Opens (l ++ l') (toks ++ toks') := by
  intro T s hs
  rw [Lexer.run_append, ← List.append_assoc]
  exact h' _ _ (h _ _ hs)

/-- **A command that begins with a word and ends in one has the tokens that its text adds.** -/
theorem tokens?_of_begins (h : Begins l toks) : tokens? l = some toks := by
  obtain ⟨parts, tokens, hT, hs⟩ := h [] {} rfl
  unfold tokens?
  rw [hs]
  rw [List.nil_append] at hT
  rw [hT]
  rfl

/-! ## Arguments -/

/-- A word of characters that stand for themselves. -/
def bareWord (l : List Char) : Token := .word (l.map .bare)

/-- Whether a text is written without quotes. -/
def isPlainText (a : List Char) : Bool := !a.isEmpty && a.all isPlain

/-- The word for a text, as it is quoted. -/
def argument (a : List Char) : Token :=
  if isPlainText a then bareWord a else .word (a.map .quoted)

/-- Characters that mean something to a shell outside quotes. -/
def activeChars : List Char :=
  [' ', '\t', '\n', '|', '&', ';', '<', '>', '(', ')', '#', '\'', '"', '\\', '$', '\x60']

/-- All other characters belong to the word. -/
theorem plain_of_notMem {c : Char} {mode : LexerMode} {parts : List Fragment}
    {tokens : List Token} {begun : Bool} (hc : c ∉ activeChars) :
    ({ mode, parts, tokens } : Lexer).plain begun c =
      { mode := .inWord, parts := .bare c :: parts, tokens } := by
  simp only [activeChars, List.mem_cons, List.not_mem_nil, or_false, not_or] at hc
  simp [Lexer.plain, Lexer.push, isOperatorChar, hc]

theorem notMem_activeChars {c : Char} (h : isPlain c = true) : c ∉ activeChars := by
  intro hc
  have hall : activeChars.all (fun d => !isPlain d) = true := by decide
  have hnot := List.all_eq_true.mp hall c hc
  rw [h] at hnot
  cases hnot

/-- Text that is one word as it stands. -/
def IsWord (l : List Char) : Prop :=
  (!l.isEmpty && l.all fun c => !activeChars.contains c) = true

instance (l : List Char) : Decidable (IsWord l) := inferInstanceAs (Decidable (_ = true))

theorem isWord_iff : IsWord l ↔ l ≠ [] ∧ ∀ c ∈ l, c ∉ activeChars := by
  simp [IsWord]

theorem isWord_of_isPlainText (h : isPlainText l = true) : IsWord l := by
  rw [isPlainText, Bool.and_eq_true] at h
  refine isWord_iff.mpr ⟨?_, fun c hc => notMem_activeChars (List.all_eq_true.mp h.2 c hc)⟩
  rintro rfl
  cases h.1

/-- Characters that mean nothing are taken as they are, in a word that has begun. -/
theorem run_bare {parts : List Fragment} {tokens : List Token}
    (hl : ∀ c ∈ l, c ∉ activeChars) :
    ({ mode := .inWord, parts, tokens } : Lexer).run l =
      { mode := .inWord, parts := (l.map .bare).reverse ++ parts, tokens } := by
  induction l generalizing parts with
  | nil => rfl
  | cons c l ih =>
    have hstep : ({ mode := .inWord, parts, tokens } : Lexer).step c =
        { mode := .inWord, parts := .bare c :: parts, tokens } :=
      plain_of_notMem (hl c List.mem_cons_self)
    show (({ mode := .inWord, parts, tokens } : Lexer).step c).run l = _
    rw [hstep, ih fun d hd => hl d (List.mem_cons_of_mem c hd)]
    simp

theorem begins_word (hl : IsWord l) : Begins l [bareWord l] := by
  rintro T s rfl
  obtain ⟨hne, hall⟩ := isWord_iff.mp hl
  cases l with
  | nil => exact absurd rfl hne
  | cons c l =>
    have hstep : ({ mode := .between, parts := [], tokens := T.reverse } : Lexer).step c =
        { mode := .inWord, parts := [.bare c], tokens := T.reverse } :=
      plain_of_notMem (hall c List.mem_cons_self)
    have hrun : ({ mode := .between, parts := [], tokens := T.reverse } : Lexer).run (c :: l) =
        { mode := .inWord, parts := (l.map .bare).reverse ++ [.bare c], tokens := T.reverse } := by
      show (({ mode := .between, parts := [], tokens := T.reverse } : Lexer).step c).run l = _
      rw [hstep, run_bare fun d hd => hall d (List.mem_cons_of_mem c hd)]
    exact ⟨_, _, by simp [bareWord], hrun⟩

theorem opens_blank : Opens [' '] [] := by
  rintro T s ⟨parts, tokens, rfl, rfl⟩
  rw [List.append_nil, AfterBlank, List.reverse_reverse]
  rfl

theorem opens_bar : Opens [' ', '|', ' '] [.operator ['|']] := by
  rintro T s ⟨parts, tokens, rfl, rfl⟩
  rw [AfterBlank, List.reverse_append, List.reverse_reverse]
  rfl

theorem opens_semicolon : Opens [';', ' '] [.operator [';']] := by
  rintro T s ⟨parts, tokens, rfl, rfl⟩
  rw [AfterBlank, List.reverse_append, List.reverse_reverse]
  rfl

/-- A blank and a word. -/
theorem adds_word (hl : IsWord l) : Adds (' ' :: l) [bareWord l] :=
  opens_blank.append (begins_word hl)

/-- Words with a blank before each. -/
def spaced (ws : List (List Char)) : List Char := ws.flatMap fun w => ' ' :: w

theorem adds_spaced {ws : List (List Char)} (h : ∀ w ∈ ws, IsWord w) :
    Adds (spaced ws) (ws.map bareWord) := by
  induction ws with
  | nil => exact adds_nil
  | cons w ws ih =>
    exact (adds_word (h w List.mem_cons_self)).append
      (ih fun v hv => h v (List.mem_cons_of_mem w hv))

/-- The next step of a pipeline. -/
theorem adds_step {w : List Char} {ws : List (List Char)} (h : ∀ v ∈ w :: ws, IsWord v) :
    Adds ([' ', '|', ' '] ++ (w ++ spaced ws)) (.operator ['|'] :: (w :: ws).map bareWord) := by
  have hw : Begins w [bareWord w] := begins_word (h w List.mem_cons_self)
  exact opens_bar.append (hw.append (adds_spaced fun v hv => h v (List.mem_cons_of_mem w hv)))

/-- A variable of one letter in double quotes. -/
theorem begins_variable {c : Char} (hc : isNameStart c = true) :
    Begins ['"', '$', c, '"'] [.word [.parameter [c] true]] := by
  rintro T s rfl
  have hdollar : ({ mode := .afterDollar true, parts := [], tokens := T.reverse } : Lexer).step c =
      { mode := .inName [c] true, parts := [], tokens := T.reverse } := by
    simp [Lexer.step, hc]
  have hrun : ({ mode := .between, parts := [], tokens := T.reverse } : Lexer).run
      ['"', '$', c, '"'] =
        { mode := .inWord, parts := [.parameter [c] true], tokens := T.reverse } := by
    show (({ mode := .afterDollar true, parts := [], tokens := T.reverse } : Lexer).step c).step
      '"' = _
    rw [hdollar]
    rfl
  exact ⟨_, _, by simp, hrun⟩

/-- A text in single quotes, with its own quotes taken out of them, is quoted throughout. -/
theorem run_quoted {parts : List Fragment} {tokens : List Token} (a : List Char) :
    ({ mode := .singleQuotes, parts, tokens } : Lexer).run
        (replaceChar '\'' ['\'', '\\', '\'', '\''] a) =
      { mode := .singleQuotes, parts := (a.map .quoted).reverse ++ parts, tokens } := by
  induction a generalizing parts with
  | nil => rfl
  | cons c a ih =>
    have hcons : replaceChar '\'' ['\'', '\\', '\'', '\''] (c :: a) =
        (if c = '\'' then ['\'', '\\', '\'', '\''] else [c]) ++
          replaceChar '\'' ['\'', '\\', '\'', '\''] a := rfl
    -- a quote leaves the quotes, comes with a backslash, and opens them again
    have hfirst : ({ mode := .singleQuotes, parts, tokens } : Lexer).run
        (if c = '\'' then ['\'', '\\', '\'', '\''] else [c]) =
          { mode := .singleQuotes, parts := .quoted c :: parts, tokens } := by
      by_cases hc : c = '\''
      · subst hc
        rfl
      · rw [if_neg hc]
        show ({ mode := .singleQuotes, parts, tokens } : Lexer).step c = _
        simp [Lexer.step, hc, Lexer.push]
    rw [hcons, Lexer.run_append, hfirst, ih]
    simp

theorem quotePosix_of_isPlainText (h : isPlainText a = true) : quotePosix a = a := if_pos h

theorem quotePosix_of_not (h : ¬isPlainText a = true) :
    quotePosix a = '\'' :: replaceChar '\'' ['\'', '\\', '\'', '\''] a ++ ['\''] := if_neg h

/-- **A quoted text is one word, whatever the text is.** -/
theorem begins_quotePosix (a : List Char) : Begins (quotePosix a) [argument a] := by
  unfold argument
  by_cases ha : isPlainText a = true
  · rw [if_pos ha, quotePosix_of_isPlainText ha]
    exact begins_word (isWord_of_isPlainText ha)
  · rw [if_neg ha, quotePosix_of_not ha]
    rintro T s rfl
    rw [List.cons_append]
    have hrun : ({ mode := .between, parts := [], tokens := T.reverse } : Lexer).run
        ('\'' :: (replaceChar '\'' ['\'', '\\', '\'', '\''] a ++ ['\''])) =
          { mode := .inWord, parts := (a.map .quoted).reverse, tokens := T.reverse } := by
      show ({ mode := .singleQuotes, parts := [], tokens := T.reverse } : Lexer).run
        (replaceChar '\'' ['\'', '\\', '\'', '\''] a ++ ['\'']) = _
      rw [Lexer.run_append, run_quoted, List.append_nil]
      rfl
    exact ⟨_, _, by simp, hrun⟩

/-- A text with a blank in it and without quotes stands in single quotes as it is. -/
theorem quotePosix_of_blank (hb : ' ' ∈ a) (hq : '\'' ∉ a) :
    quotePosix a = '\'' :: (a ++ ['\'']) := by
  have hplain : ¬isPlainText a = true := by
    intro h
    rw [isPlainText, Bool.and_eq_true, List.all_eq_true] at h
    exact absurd (h.2 ' ' hb) (by decide)
  rw [quotePosix_of_not hplain, replaceChar_of_notMem hq]
  rfl

/-! ### What an argument is -/

theorem mapM_char?_bare (l : List Char) : (l.map Fragment.bare).mapM Fragment.char? = some l := by
  induction l with
  | nil => rfl
  | cons c l ih => simp [ih, Fragment.char?]

theorem mapM_char?_quoted (l : List Char) :
    (l.map Fragment.quoted).mapM Fragment.char? = some l := by
  induction l with
  | nil => rfl
  | cons c l ih => simp [ih, Fragment.char?]

@[simp] theorem text?_bareWord (l : List Char) : (bareWord l).text? = some l := mapM_char?_bare l

/-- **The word for a text is that text without its quotes.** -/
@[simp] theorem text?_argument (a : List Char) : (argument a).text? = some a := by
  unfold argument
  split
  · exact text?_bareWord a
  · exact mapM_char?_quoted a

theorem argument_inj {a b : List Char} : argument a = argument b ↔ a = b := by
  constructor
  · intro h
    have ht : (argument a).text? = (argument b).text? := by rw [h]
    simpa using ht
  · rintro rfl
    rfl

/-- A word all of which a shell takes as it is: unquoted characters are plain. -/
def IsInert (t : Token) : Prop :=
  ∃ parts, t = .word parts ∧
    ∀ f ∈ parts, (∃ c, f = .quoted c) ∨ ∃ c, f = .bare c ∧ isPlain c = true

theorem isInert_argument (a : List Char) : IsInert (argument a) := by
  unfold argument
  by_cases ha : isPlainText a = true
  · rw [if_pos ha]
    have hall : ∀ c ∈ a, isPlain c = true := by
      rw [isPlainText, Bool.and_eq_true] at ha
      exact List.all_eq_true.mp ha.2
    refine ⟨_, rfl, fun f hf => ?_⟩
    obtain ⟨c, hc, rfl⟩ := List.mem_map.mp hf
    exact Or.inr ⟨c, rfl, hall c hc⟩
  · rw [if_neg ha]
    refine ⟨_, rfl, fun f hf => ?_⟩
    obtain ⟨c, -, rfl⟩ := List.mem_map.mp hf
    exact Or.inl ⟨c, rfl⟩

end RemoteSearch.Shell

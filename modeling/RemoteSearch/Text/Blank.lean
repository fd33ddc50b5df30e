/-!
# Blanks

Which characters count as white space, and the trimming and tokenising built on that class.
The class is the `White_Space` property of Unicode, not the ASCII one.

## Termination

Every function recurses on the list or drops from it; nothing here needs a measure of its own.
-/

namespace RemoteSearch.Text

/-- White space in the sense of Unicode's `White_Space` property. -/
def isBlank (c : Char) : Bool :=
  let n := c.toNat
  (9 ≤ n && n ≤ 13) || n == 0x20 || n == 0x85 || n == 0xA0 || n == 0x1680 ||
    (0x2000 ≤ n && n ≤ 0x200A) || n == 0x2028 || n == 0x2029 || n == 0x202F || n == 0x205F ||
    n == 0x3000

/-! ## Cutting at the ends -/

/-- Drops the longest final run of characters that satisfy `p`. -/
def dropEndWhile (p : Char → Bool) (l : List Char) : List Char := (l.reverse.dropWhile p).reverse

/-- A text whose last character fails `p` loses nothing at its end. -/
theorem dropEndWhile_append_singleton {p : Char → Bool} {c : Char} (h : p c = false)
    (l : List Char) : dropEndWhile p (l ++ [c]) = l ++ [c] := by
  simp [dropEndWhile, h]

/-- The text without its leading blanks. -/
def trimStart (l : List Char) : List Char := l.dropWhile isBlank

/-- The text without its trailing blanks. -/
def trimEnd (l : List Char) : List Char := dropEndWhile isBlank l

/-- The text without the blanks at both ends. -/
def trim (l : List Char) : List Char := trimEnd (trimStart l)

/-- Trimming of a string at both ends. -/
def trimmed (s : String) : String := String.ofList (trim s.toList)

/-- Nothing but blanks. -/
def allBlank (s : String) : Bool := s.toList.all isBlank

/-! ## Words -/

/--
The first word of the text, that is the run of non-blanks after the leading blanks, with the
untouched remainder after it. `none` when only blanks are left.
-/
def nextWord (l : List Char) : Option (List Char × List Char) :=
  match trimStart l with
  | [] => none
  | c :: r => some ((c :: r).takeWhile (!isBlank ·), (c :: r).dropWhile (!isBlank ·))

/-- A word takes at least one character from the text. -/
theorem length_lt_of_nextWord {l w r : List Char} (h : nextWord l = some (w, r)) :
    r.length < l.length := by
  unfold nextWord at h
  cases hl : trimStart l with
  | nil => simp [hl] at h
  | cons c t =>
    simp only [hl, Option.some.injEq, Prod.mk.injEq] at h
    obtain ⟨-, rfl⟩ := h
    have hc : isBlank c = false := by
      have hd := List.head?_dropWhile_not isBlank l
      simp only [trimStart] at hl
      simpa [hl] using hd
    have h1 : ((c :: t).dropWhile (!isBlank ·)).length ≤ t.length := by
      simp only [List.dropWhile_cons, hc, Bool.not_false, if_true]
      exact (List.dropWhile_suffix _).length_le
    have h2 : (c :: t).length ≤ l.length := by
      rw [← hl]
      exact (List.dropWhile_suffix _).length_le
    simp only [List.length_cons] at h2
    omega

/-- The words of a text, in order. -/
def wordsOf (l : List Char) : List (List Char) :=
  match h : nextWord l with
  | none => []
  | some (w, r) =>
    have : r.length < l.length := length_lt_of_nextWord h
    w :: wordsOf r
termination_by l.length

/-- The words of a string, in order. -/
def words (s : String) : List String := (wordsOf s.toList).map String.ofList

end RemoteSearch.Text

import RemoteSearch.Text.Utf8

/-!
# Excerpts

The beginning of a text that is too long to be shown in full. The limit is in bytes, and a
character is shown whole or not at all.
-/

namespace RemoteSearch.Text

/-- The longest beginning of a text that has no more than `n` bytes. -/
def fitting (n : Nat) : List Char → List Char
  | [] => []
  | c :: r => if Utf8.charSize c ≤ n then c :: fitting (n - Utf8.charSize c) r else []

/-- The longest text that is shown in full, in bytes. -/
def excerptLimit : Nat := 200

/-- A text, or its beginning and how many bytes were left out. -/
def excerptOf (l : List Char) : List Char :=
  if Utf8.size l ≤ excerptLimit then l
  else
    let shown := fitting excerptLimit l
    shown ++ s!"... <{Utf8.size l - Utf8.size shown} more bytes>".toList

/-- A text, or its beginning and how many bytes were left out. -/
def excerpt (s : String) : String := String.ofList (excerptOf s.toList)

/-- What fits is a beginning of the text. -/
theorem fitting_prefix (n : Nat) (l : List Char) : fitting n l <+: l := by
  induction l generalizing n with
  | nil => simp [fitting]
  | cons c r ih =>
    rw [fitting]
    split
    · exact List.cons_prefix_cons.mpr ⟨rfl, ih _⟩
    · exact List.nil_prefix

/-- What fits does not go over the limit. -/
theorem size_fitting_le (n : Nat) (l : List Char) : Utf8.size (fitting n l) ≤ n := by
  induction l generalizing n with
  | nil => simp [fitting, Utf8.size]
  | cons c r ih =>
    rw [fitting]
    split
    · next h =>
      have := ih (n - Utf8.charSize c)
      simp only [Utf8.size, List.foldr_cons] at this ⊢
      omega
    · simp [Utf8.size]

end RemoteSearch.Text

/-!
# Numbers as texts

What a number looks like when it is written into a command.
-/

namespace RemoteSearch.Text

/-- Numbers are written with digits only. -/
theorem isDigit_of_mem_toString {n : Nat} {c : Char} (h : c ∈ (toString n).toList) :
    c.isDigit = true := by
  rw [Nat.toString_eq_ofList_toDigits, String.toList_ofList] at h
  exact Nat.isDigit_of_mem_toDigits (by decide) (by decide) h

/-- The text of a number tells which number it is. -/
theorem toString_inj {a b : Nat} : toString a = toString b ↔ a = b := by
  constructor
  · intro h
    rw [Nat.toString_eq_ofList_toDigits, Nat.toString_eq_ofList_toDigits, ← String.toList_inj,
      String.toList_ofList, String.toList_ofList] at h
    rw [← @Nat.ofDigitChars_ten_toDigits a, h, Nat.ofDigitChars_ten_toDigits]
  · rintro rfl
    rfl

end RemoteSearch.Text

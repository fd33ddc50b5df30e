/-!
# Splitting and joining

Cutting a text at a character or at a fixed phrase, and its division into lines. Splitting at a
character and joining with it are inverse to each other.
-/

namespace RemoteSearch.Text

/-! ## At a character -/

/--
The pieces between the occurrences of `d`, after `piece` and `pieces`, which hold what has been
read of the current piece and the pieces before it, both in reverse.
-/
def splitOnto (d : Char) (piece : List Char) (pieces : List (List Char)) :
    List Char → List (List Char)
  | [] => (piece.reverse :: pieces).reverse
  | c :: r =>
    if c = d then splitOnto d [] (piece.reverse :: pieces) r
    else splitOnto d (c :: piece) pieces r

/-- The pieces between the occurrences of `d`; there is always at least one. -/
def splitAt (d : Char) (l : List Char) : List (List Char) := splitOnto d [] [] l

/-- What has been read before goes in front of the first piece, and the pieces before that. -/
theorem splitOnto_eq (d : Char) (piece : List Char) (pieces : List (List Char)) (l : List Char) :
    ∃ p ps, splitAt d l = p :: ps ∧
      splitOnto d piece pieces l = pieces.reverse ++ (piece.reverse ++ p) :: ps := by
  induction l generalizing piece pieces with
  | nil => exact ⟨[], [], rfl, by simp [splitOnto]⟩
  | cons c r ih =>
    by_cases hc : c = d
    · obtain ⟨p, ps, h1, h2⟩ := ih [] (piece.reverse :: pieces)
      obtain ⟨p', ps', h3, h4⟩ := ih [] [[]]
      rw [h1] at h3
      obtain ⟨rfl, rfl⟩ := List.cons.inj h3
      exact ⟨[], p :: ps, by simp [splitAt, splitOnto, hc, h4], by simp [splitOnto, hc, h2]⟩
    · obtain ⟨p, ps, h1, h2⟩ := ih (c :: piece) pieces
      obtain ⟨p', ps', h3, h4⟩ := ih [c] []
      rw [h1] at h3
      obtain ⟨rfl, rfl⟩ := List.cons.inj h3
      exact ⟨c :: p, ps, by simp [splitAt, splitOnto, hc, h4], by simp [splitOnto, hc, h2]⟩

@[simp] theorem splitAt_nil (d : Char) : splitAt d [] = [[]] := rfl

theorem splitAt_ne_nil (d : Char) (l : List Char) : splitAt d l ≠ [] := by
  obtain ⟨p, ps, h, -⟩ := splitOnto_eq d [] [] l
  simp [h]

/-- The delimiter closes an empty piece. -/
theorem splitAt_cons_self (d : Char) (l : List Char) : splitAt d (d :: l) = [] :: splitAt d l := by
  obtain ⟨p, ps, h1, h2⟩ := splitOnto_eq d [] [[]] l
  simp [splitAt, splitOnto, h2]
  simpa [splitAt] using h1.symm

/-- Any other character goes in front of the first piece. -/
theorem splitAt_cons_of_ne {c d : Char} (h : c ≠ d) (l : List Char) :
    ∃ p ps, splitAt d l = p :: ps ∧ splitAt d (c :: l) = (c :: p) :: ps := by
  obtain ⟨p, ps, h1, h2⟩ := splitOnto_eq d [c] [] l
  exact ⟨p, ps, h1, by simp [splitAt, splitOnto, h, h2]⟩

/-- The pieces one after another with `d` between them. -/
def joinWith (d : Char) : List (List Char) → List Char
  | [] => []
  | [p] => p
  | p :: q :: ps => p ++ d :: joinWith d (q :: ps)

/-- **Joining the pieces of a text gives the text back.** -/
theorem joinWith_splitAt (d : Char) (l : List Char) : joinWith d (splitAt d l) = l := by
  induction l with
  | nil => rfl
  | cons c r ih =>
    by_cases hc : c = d
    · subst hc
      rw [splitAt_cons_self]
      cases hs : splitAt c r with
      | nil => exact absurd hs (splitAt_ne_nil c r)
      | cons p ps =>
        rw [hs] at ih
        simp [joinWith, ih]
    · obtain ⟨p, ps, h1, h2⟩ := splitAt_cons_of_ne hc r
      rw [h1] at ih
      rw [h2]
      cases ps with
      | nil => simpa [joinWith] using ih
      | cons q qs => simpa [joinWith] using ih

/-- A text without the delimiter is its own only piece. -/
theorem splitAt_of_notMem {d : Char} {l : List Char} (h : d ∉ l) : splitAt d l = [l] := by
  induction l with
  | nil => rfl
  | cons c r ih =>
    have hc : c ≠ d := fun e => h (by simp [e])
    have hr : d ∉ r := fun e => h (by simp [e])
    obtain ⟨p, ps, h1, h2⟩ := splitAt_cons_of_ne hc r
    rw [ih hr] at h1
    obtain ⟨rfl, rfl⟩ := List.cons.inj h1
    exact h2

/-- Splitting at the first delimiter written out. -/
theorem splitAt_append_cons {d : Char} {p : List Char} (h : d ∉ p) (l : List Char) :
    splitAt d (p ++ d :: l) = p :: splitAt d l := by
  induction p with
  | nil => exact splitAt_cons_self d l
  | cons c r ih =>
    have hc : c ≠ d := fun e => h (by simp [e])
    have hr : d ∉ r := fun e => h (by simp [e])
    obtain ⟨q, qs, h1, h2⟩ := splitAt_cons_of_ne hc (r ++ d :: l)
    rw [ih hr] at h1
    obtain ⟨rfl, rfl⟩ := List.cons.inj h1
    exact h2

/-- **Splitting a join gives the pieces back**, if no piece holds the delimiter. -/
theorem splitAt_joinWith {d : Char} {ps : List (List Char)} (hne : ps ≠ [])
    (h : ∀ p ∈ ps, d ∉ p) : splitAt d (joinWith d ps) = ps := by
  induction ps with
  | nil => exact absurd rfl hne
  | cons p qs ih =>
    cases qs with
    | nil => exact splitAt_of_notMem (h p (by simp))
    | cons q rs =>
      rw [joinWith, splitAt_append_cons (h p (by simp)),
        ih (by simp) (fun x hx => h x (by simp [hx]))]

/-- The strings between the occurrences of `d`. -/
def split (d : Char) (s : String) : List String := (splitAt d s.toList).map String.ofList

/-! ## At a phrase -/

/-- The texts before and after the first occurrence of `phrase`. -/
def cutAt (phrase : List Char) : List Char → Option (List Char × List Char)
  | [] => if phrase.isEmpty then some ([], []) else none
  | c :: r =>
    if phrase.isPrefixOf (c :: r) then some ([], (c :: r).drop phrase.length)
    else (cutAt phrase r).map fun (a, b) => (c :: a, b)

/-- Before, phrase and after make up the text. -/
theorem append_of_cutAt {phrase l a b : List Char} (h : cutAt phrase l = some (a, b)) :
    l = a ++ phrase ++ b := by
  induction l generalizing a b with
  | nil =>
    unfold cutAt at h
    split at h
    · rename_i hp
      simp only [Option.some.injEq, Prod.mk.injEq] at h
      obtain ⟨rfl, rfl⟩ := h
      simp [List.isEmpty_iff.1 hp]
    · simp at h
  | cons c r ih =>
    unfold cutAt at h
    split at h
    · rename_i hp
      simp only [Option.some.injEq, Prod.mk.injEq] at h
      obtain ⟨rfl, rfl⟩ := h
      obtain ⟨t, ht⟩ := List.isPrefixOf_iff_prefix.1 hp
      rw [← ht]
      simp
    · obtain ⟨⟨a', b'⟩, hab, he⟩ := Option.map_eq_some_iff.1 h
      simp only [Prod.mk.injEq] at he
      obtain ⟨rfl, rfl⟩ := he
      simp [ih hab]

/-- In `a` followed by `phrase`, the first occurrence of `phrase` is the one after `a`. -/
def IsFirstAfter (phrase a : List Char) : Prop :=
  ∀ x y, a ++ phrase = x ++ phrase ++ y → a.length ≤ x.length

theorem cutAt_append_self (phrase b : List Char) : cutAt phrase (phrase ++ b) = some ([], b) := by
  cases hl : phrase ++ b with
  | nil =>
    obtain ⟨rfl, rfl⟩ := List.append_eq_nil_iff.mp hl
    rfl
  | cons c r =>
    have hp : phrase.isPrefixOf (c :: r) = true := by
      rw [← hl]
      exact List.isPrefixOf_iff_prefix.mpr (List.prefix_append phrase b)
    rw [cutAt, if_pos hp, ← hl, List.drop_left]

/-- **Cutting at the phrase that comes first.** -/
theorem cutAt_append {phrase a : List Char} (h : IsFirstAfter phrase a) (b : List Char) :
    cutAt phrase (a ++ (phrase ++ b)) = some (a, b) := by
  induction a with
  | nil => exact cutAt_append_self phrase b
  | cons c a ih =>
    have hn : ¬phrase.isPrefixOf (c :: a ++ (phrase ++ b)) = true := by
      intro hp
      rw [List.isPrefixOf_iff_prefix, ← List.append_assoc] at hp
      obtain ⟨y, hy⟩ := List.prefix_of_prefix_length_le hp (List.prefix_append _ b)
        (by simp only [List.length_append]; omega)
      have := h [] y hy.symm
      simp at this
    have ha : IsFirstAfter phrase a := by
      intro x y hxy
      have := h (c :: x) y (by simp [hxy])
      simpa using this
    rw [List.cons_append] at hn ⊢
    rw [cutAt, if_neg hn, ih ha]
    rfl

/-- Nothing is cut before the phrase occurs for the first time. -/
theorem length_le_of_cutAt {phrase l a b x y : List Char} (h : cutAt phrase l = some (a, b))
    (hl : l = x ++ phrase ++ y) : a.length ≤ x.length := by
  induction l generalizing a x with
  | nil =>
    have := congrArg List.length (append_of_cutAt h)
    simp only [List.length_nil, List.length_append] at this
    omega
  | cons c r ih =>
    unfold cutAt at h
    split at h
    · obtain ⟨rfl, -⟩ := Prod.mk.inj (Option.some.inj h)
      exact Nat.zero_le _
    · next hp =>
      obtain ⟨⟨a', b'⟩, hab, he⟩ := Option.map_eq_some_iff.1 h
      obtain ⟨rfl, rfl⟩ := Prod.mk.inj he
      cases x with
      | nil =>
        refine absurd (List.isPrefixOf_iff_prefix.mpr ?_) hp
        rw [hl]
        exact List.prefix_append phrase y
      | cons d x =>
        have := ih hab (List.cons.inj hl).2
        simp only [List.length_cons]
        omega

theorem isFirstAfter_iff {phrase a : List Char} :
    IsFirstAfter phrase a ↔ cutAt phrase (a ++ phrase) = some (a, []) := by
  refine ⟨fun h => ?_, fun h x y hxy => length_le_of_cutAt h hxy⟩
  simpa using cutAt_append h []

instance (phrase a : List Char) : Decidable (IsFirstAfter phrase a) :=
  decidable_of_iff _ isFirstAfter_iff.symm

theorem isFirstAfter_singleton {c : Char} {a : List Char} (h : c ∉ a) : IsFirstAfter [c] a := by
  intro x y hxy
  rw [List.append_assoc, List.append_eq_append_iff] at hxy
  rcases hxy with ⟨z, rfl, -⟩ | ⟨z, rfl, hz⟩
  · simp
  · cases z with
    | nil => simp
    | cons d z =>
      obtain ⟨rfl, -⟩ := List.cons.inj hz
      exact absurd (by simp) h

/-- Cutting at the first of a character. -/
theorem cutAt_singleton {c : Char} {a b : List Char} (h : c ∉ a) :
    cutAt [c] (a ++ c :: b) = some (a, b) :=
  cutAt_append (isFirstAfter_singleton h) b

theorem notMem_of_cutAt {c : Char} {l a b : List Char} (h : cutAt [c] l = some (a, b)) : c ∉ a := by
  intro hc
  obtain ⟨x, y, rfl⟩ := List.append_of_mem hc
  have hl := append_of_cutAt h
  have hle := length_le_of_cutAt h (x := x) (y := y ++ [c] ++ b) (by simp [hl])
  simp only [List.length_append, List.length_cons] at hle
  omega

theorem isSome_cutAt_singleton {c : Char} {l : List Char} : (cutAt [c] l).isSome ↔ c ∈ l := by
  induction l with
  | nil => simp [cutAt]
  | cons d l ih =>
    rw [cutAt]
    by_cases hd : c = d
    · simp [hd]
    · simp [hd, ih]

/-- The texts before and after the last occurrence of `phrase`. -/
def cutAtLast (phrase l : List Char) : Option (List Char × List Char) :=
  (cutAt phrase.reverse l.reverse).map fun (a, b) => (b.reverse, a.reverse)

/-- Before, phrase and after make up the text. -/
theorem append_of_cutAtLast {phrase l a b : List Char} (h : cutAtLast phrase l = some (a, b)) :
    l = a ++ phrase ++ b := by
  obtain ⟨⟨x, y⟩, hxy, he⟩ := Option.map_eq_some_iff.1 h
  simp only [Prod.mk.injEq] at he
  obtain ⟨rfl, rfl⟩ := he
  have := congrArg List.reverse (append_of_cutAt hxy)
  simpa using this

/-- The strings before and after the first occurrence of `phrase`. -/
def cut (phrase s : String) : Option (String × String) :=
  (cutAt phrase.toList s.toList).map fun (a, b) => (String.ofList a, String.ofList b)

/-- The strings before and after the last occurrence of `phrase`. -/
def cutLast (phrase s : String) : Option (String × String) :=
  (cutAtLast phrase.toList s.toList).map fun (a, b) => (String.ofList a, String.ofList b)

/-! ## Lines -/

/-- A line without one carriage return at its end. -/
def dropReturn (l : List Char) : List Char :=
  match l.getLast? with
  | some '\r' => l.dropLast
  | _ => l

/--
The lines of a text. Each ends in a line feed that does not belong to it, and one carriage return
before that is dropped as well; a last line without a line feed counts when it is not empty and
keeps its carriage return.
-/
def linesOf (l : List Char) : List (List Char) :=
  let pieces := splitAt '\n' l
  let closed := pieces.dropLast.map dropReturn
  match pieces.getLast? with
  | none => closed
  | some [] => closed
  | some last => closed ++ [last]

/-- The lines of a string. -/
def lines (s : String) : List String := (linesOf s.toList).map String.ofList

end RemoteSearch.Text

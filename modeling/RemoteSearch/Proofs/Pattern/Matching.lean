import RemoteSearch.Pattern.Match

/-!
# What matching computes

`Node.reach` computes with lists of places, `Node.Matches` says what a match is. The two agree for
every pattern (`computes_reach`), so whether a pattern is found can be told from its matches alone
(`found_iff`).

The only bound in `reach` is on the rounds of a repetition without an upper bound. Matches lead
forward in the text, so a round that leads anywhere takes up a character, and no more rounds are
needed than the text has characters (`Forward.shorten`).
-/

namespace RemoteSearch.Pattern

variable {R : Nat → Nat → Prop} {step : List Nat → List Nat} {t : List Char} {len n p q : Nat}

/-! ## Steps -/

theorem steps_add (m n p q : Nat) :
    Steps R (m + n) p q ↔ ∃ r, Steps R m p r ∧ Steps R n r q := by
  induction m generalizing p with
  | zero => simp [Steps]
  | succ m ih =>
    rw [Nat.succ_add]
    simp only [Steps, ih]
    constructor
    · rintro ⟨r, hr, s, hs, hq⟩
      exact ⟨s, ⟨r, hr, hs⟩, hq⟩
    · rintro ⟨s, ⟨r, hr, hs⟩, hq⟩
      exact ⟨r, hr, s, hs, hq⟩

/-- A relation between places that leads nowhere back, and not beyond the end of the text. -/
def Forward (len : Nat) (R : Nat → Nat → Prop) : Prop :=
  ∀ p q, R p q → p ≤ q ∧ (q ≤ len ∨ q = p)

theorem Forward.steps (h : Forward len R) (n : Nat) : Forward len (Steps R n) := by
  induction n with
  | zero =>
    intro p q hs
    obtain rfl : p = q := hs
    exact ⟨Nat.le_refl p, .inr rfl⟩
  | succ n ih =>
    intro p q hs
    obtain ⟨r, hr, hq⟩ := hs
    have hpr := h p r hr
    have hrq := ih r q hq
    omega

/-- Steps that stay where they are can be left out. -/
theorem Forward.shorten (h : Forward len R) (hs : Steps R n p q) :
    ∃ k ≤ n, k ≤ q - p ∧ Steps R k p q := by
  induction n generalizing p with
  | zero => exact ⟨0, Nat.le_refl 0, Nat.zero_le _, hs⟩
  | succ n ih =>
    obtain ⟨r, hr, hq⟩ := hs
    obtain ⟨k, hkn, hk, hsteps⟩ := ih hq
    have hpr := (h p r hr).1
    have hrq := (h.steps n r q hq).1
    by_cases hstay : r = p
    · subst hstay
      exact ⟨k, Nat.le_succ_of_le hkn, hk, hsteps⟩
    · exact ⟨k + 1, Nat.succ_le_succ hkn, by omega, r, hr, hsteps⟩

/-! ## Lists of places -/

/-- Whether `step` computes the places to which `R` leads from given ones. -/
def Computes (step : List Nat → List Nat) (R : Nat → Nat → Prop) : Prop :=
  ∀ ps q, q ∈ step ps ↔ ∃ p ∈ ps, R p q

theorem Computes.nil (h : Computes step R) : step [] = [] := by
  refine List.eq_nil_iff_forall_not_mem.mpr fun q hq => ?_
  obtain ⟨p, hp, -⟩ := (h [] q).mp hq
  cases hp

theorem mem_merge {a b : List Nat} : q ∈ merge a b ↔ q ∈ a ∨ q ∈ b := by
  by_cases h : q ∈ a <;> simp [merge, h]

theorem computes_applyTimes (h : Computes step R) (n : Nat) :
    Computes (applyTimes step n) (Steps R n) := by
  intro ps q
  induction n generalizing ps with
  | zero => simp [applyTimes, Steps]
  | succ n ih =>
    have hnext : q ∈ applyTimes step n (step ps) ↔ ∃ p ∈ ps, Steps R (n + 1) p q := by
      rw [ih]
      constructor
      · rintro ⟨r, hr, hq⟩
        obtain ⟨p, hp, hpr⟩ := (h ps r).mp hr
        exact ⟨p, hp, r, hpr, hq⟩
      · rintro ⟨p, hp, r, hpr, hq⟩
        exact ⟨r, (h ps r).mpr ⟨p, hp, hpr⟩, hq⟩
    rw [← hnext, applyTimes]
    split
    · rename_i he
      rw [List.isEmpty_iff] at he
      subst he
      simp [hnext]
    · rfl

/--
A way that comes back to where it could have begun is no shorter than the one that begins there, so
`iterate` need not go on from places it has been to.
-/
theorem computes_iterate (h : Computes step R) (n : Nat) :
    Computes (iterate step n) fun p q => ∃ k ≤ n, Steps R k p q := by
  intro ps q
  induction n generalizing ps with
  | zero => simp [iterate, Steps]
  | succ n ih =>
    have hnext : ∀ r, r ∈ (step ps).filter (!ps.contains ·) ↔ (∃ p ∈ ps, R p r) ∧ r ∉ ps := by
      intro r
      simp [List.mem_filter, h ps r]
    have hmore : q ∈ merge ps (iterate step n ((step ps).filter (!ps.contains ·))) ↔
        ∃ p ∈ ps, ∃ k ≤ n + 1, Steps R k p q := by
      rw [mem_merge, ih]
      constructor
      · rintro (hq | ⟨r, hr, k, hk, hq⟩)
        · exact ⟨q, hq, 0, Nat.zero_le _, rfl⟩
        · obtain ⟨⟨p, hp, hpr⟩, -⟩ := (hnext r).mp hr
          exact ⟨p, hp, k + 1, Nat.succ_le_succ hk, r, hpr, hq⟩
      · rintro ⟨p, hp, k, hk, hq⟩
        -- on the steps that are left: a step to one of the places `ps` begins the way anew
        induction k generalizing p with
        | zero =>
          obtain rfl : p = q := hq
          exact .inl hp
        | succ k ihk =>
          obtain ⟨r, hpr, hq⟩ := hq
          by_cases hr : r ∈ ps
          · exact ihk r hr (Nat.le_of_succ_le hk) hq
          · exact .inr ⟨r, (hnext r).mpr ⟨⟨p, hp, hpr⟩, hr⟩, k, Nat.le_of_succ_le_succ hk, hq⟩
    rw [← hmore, iterate]
    split
    · rename_i he
      rw [List.isEmpty_iff] at he
      have hnone : iterate step n [] = [] := by cases n <;> simp [iterate, h.nil]
      rw [he, hnone, mem_merge]
      simp
    · rfl

/-! ## Matches -/

/-- Matches lead forward. -/
theorem forward_matches (t : List Char) (a : Node) : Forward t.length (a.Matches t) := by
  induction a with
  | empty =>
    intro p q h
    exact ⟨Nat.le_of_eq h, .inr h.symm⟩
  | one s =>
    rintro p q ⟨c, hc, -, rfl⟩
    have hp : p < t.length := (List.getElem?_eq_some_iff.mp hc).1
    omega
  | anchor a =>
    rintro p q ⟨-, rfl⟩
    exact ⟨Nat.le_refl p, .inr rfl⟩
  | seq a b iha ihb =>
    rintro p q ⟨r, ha, hb⟩
    have := iha p r ha
    have := ihb r q hb
    omega
  | alt a b iha ihb =>
    rintro p q (ha | hb)
    · exact iha p q ha
    · exact ihb p q hb
  | rep a greedy min max ih =>
    rintro p q ⟨n, -, -, hs⟩
    exact ih.steps n p q hs
  | group number a ih => exact ih
  | notAhead a =>
    rintro p q ⟨-, rfl⟩
    exact ⟨Nat.le_refl p, .inr rfl⟩

theorem mem_filter_place {f : Nat → Bool} {ps : List Nat} :
    q ∈ ps.filter f ↔ ∃ p ∈ ps, f p = true ∧ p = q := by
  rw [List.mem_filter]
  constructor
  · rintro ⟨hq, hf⟩
    exact ⟨q, hq, hf, rfl⟩
  · rintro ⟨p, hp, hf, rfl⟩
    exact ⟨hp, hf⟩

/-- The places after a repetition, in terms of the rounds that it takes. -/
theorem computes_rep {a : Node} (h : Computes (a.reach t) (a.Matches t)) (greedy : Bool)
    (min : Nat) (max : Option Nat) :
    Computes ((Node.rep a greedy min max).reach t) ((Node.rep a greedy min max).Matches t) := by
  intro ps q
  have hstart := computes_applyTimes h min
  cases max with
  | none =>
    simp only [Node.reach, computes_iterate h _ _ q, hstart ps _, Node.Matches]
    constructor
    · rintro ⟨r, ⟨p, hp, hr⟩, k, -, hq⟩
      exact ⟨p, hp, min + k, Nat.le_add_right min k, by simp, (steps_add ..).mpr ⟨r, hr, hq⟩⟩
    · rintro ⟨p, hp, n, hn, -, hs⟩
      obtain ⟨k, rfl⟩ := Nat.exists_eq_add_of_le hn
      obtain ⟨r, hr, hq⟩ := (steps_add ..).mp hs
      obtain ⟨m, -, hm, hq'⟩ := (forward_matches t a).shorten hq
      have hrq := (forward_matches t a).steps k r q hq
      exact ⟨r, ⟨p, hp, hr⟩, m, by omega, hq'⟩
  | some max =>
    simp only [Node.reach, Node.Matches]
    split
    · rename_i hle
      simp only [computes_iterate h _ _ q, hstart ps _]
      constructor
      · rintro ⟨r, ⟨p, hp, hr⟩, k, hk, hq⟩
        refine ⟨p, hp, min + k, Nat.le_add_right min k, ?_, (steps_add ..).mpr ⟨r, hr, hq⟩⟩
        rintro m ⟨⟩
        omega
      · rintro ⟨p, hp, n, hn, hmax, hs⟩
        obtain ⟨k, rfl⟩ := Nat.exists_eq_add_of_le hn
        obtain ⟨r, hr, hq⟩ := (steps_add ..).mp hs
        have hle := hmax max rfl
        exact ⟨r, ⟨p, hp, hr⟩, k, by omega, hq⟩
    · rename_i hgt
      simp only [List.not_mem_nil, false_iff]
      rintro ⟨p, -, n, hn, hmax, -⟩
      have hle := hmax max rfl
      omega

/-- **`reach` computes the places where matches end.** -/
theorem computes_reach (t : List Char) (a : Node) : Computes (a.reach t) (a.Matches t) := by
  induction a with
  | empty =>
    intro ps q
    simp [Node.reach, Node.Matches]
  | one s =>
    intro ps q
    simp only [Node.reach, Node.Matches, List.mem_filterMap]
    refine exists_congr fun p => and_congr_right fun _ => ?_
    cases t[p]? with
    | none => simp
    | some c => by_cases hs : s.has c = true <;> simp [hs, @eq_comm _ q]
  | anchor a =>
    intro ps q
    exact mem_filter_place
  | seq a b iha ihb =>
    intro ps q
    rw [Node.reach, ihb]
    constructor
    · rintro ⟨r, hr, hb⟩
      obtain ⟨p, hp, ha⟩ := (iha ps r).mp hr
      exact ⟨p, hp, r, ha, hb⟩
    · rintro ⟨p, hp, r, ha, hb⟩
      exact ⟨r, (iha ps r).mpr ⟨p, hp, ha⟩, hb⟩
  | alt a b iha ihb =>
    intro ps q
    simp only [Node.reach, Node.Matches, mem_merge, iha ps q, ihb ps q]
    simp only [← exists_or, and_or_left]
  | rep a greedy min max ih => exact computes_rep ih greedy min max
  | group number a ih => exact ih
  | notAhead a ih =>
    intro ps q
    rw [Node.reach, mem_filter_place]
    refine exists_congr fun p => and_congr_right fun _ => and_congr_left fun _ => ?_
    rw [List.isEmpty_iff, List.eq_nil_iff_forall_not_mem]
    simp [ih [p]]

/-- **A pattern is found in a text if a match of it begins somewhere in the text.** -/
theorem found_iff (a : Node) (t : List Char) :
    a.found t = true ↔ ∃ p ≤ t.length, ∃ q, a.Matches t p q := by
  rw [Node.found, Bool.not_eq_true', List.isEmpty_eq_false_iff_exists_mem]
  simp only [computes_reach t a _ _, List.mem_range, Nat.lt_succ_iff]
  constructor
  · rintro ⟨q, p, hp, h⟩
    exact ⟨p, hp, q, h⟩
  · rintro ⟨p, hp, q, h⟩
    exact ⟨q, p, hp, h⟩

/-- A character repeated takes up as many characters of its class as there are. -/
theorem steps_one {s : CharClass} (n p : Nat)
    (h : ∀ i, p ≤ i → i < p + n → ∃ c, t[i]? = some c ∧ s.has c = true) :
    Steps ((Node.one s).Matches t) n p (p + n) := by
  induction n generalizing p with
  | zero => rfl
  | succ n ih =>
    obtain ⟨c, hc, hs⟩ := h p (Nat.le_refl p) (by omega)
    refine ⟨p + 1, ⟨c, hc, hs, rfl⟩, ?_⟩
    have hrest := ih (p + 1) fun i hi hlt => h i (by omega) (by omega)
    rwa [Nat.add_right_comm] at hrest

/-! ## Sequences -/

theorem matches_ofSeq_cons (a : Node) (l : List Node) :
    (Node.ofSeq (a :: l)).Matches t p q ↔
      ∃ r, a.Matches t p r ∧ (Node.ofSeq l).Matches t r q := by
  cases l with
  | nil => simp [Node.ofSeq, Node.Matches]
  | cons b l => rfl

theorem matches_ofSeq_append (l l' : List Node) :
    (Node.ofSeq (l ++ l')).Matches t p q ↔
      ∃ r, (Node.ofSeq l).Matches t p r ∧ (Node.ofSeq l').Matches t r q := by
  induction l generalizing p with
  | nil => simp [Node.ofSeq, Node.Matches]
  | cons a l ih =>
    simp only [List.cons_append, matches_ofSeq_cons, ih]
    constructor
    · rintro ⟨r, ha, s, hs, hq⟩
      exact ⟨s, ⟨r, ha, hs⟩, hq⟩
    · rintro ⟨s, ⟨r, ha, hs⟩, hq⟩
      exact ⟨r, ha, s, hs, hq⟩

end RemoteSearch.Pattern

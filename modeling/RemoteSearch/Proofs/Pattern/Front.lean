import RemoteSearch.Pattern.Basic
import RemoteSearch.Proofs.Pattern.Matching
import RemoteSearch.Proofs.Pattern.Reading

/-!
# Matches of a pattern with something in front

Something in front of a pattern has to match before the first alternative of the pattern does, and
has no part in the matches of the others (`matches_ofItems_append`, `exists_matches_front`).
-/

namespace RemoteSearch.Pattern

open RemoteSearch.Pattern.Parser

variable {g : Grammar} {t : List Char} {l : List Char} {p q : Nat}

/-! ## Alternatives of a pattern -/

theorem exists_of_alternativesFrom {s : State} {alts : List (Node × Nat)}
    (h : alternativesFrom g s l = .ok alts) :
    ∃ s', loop g s l = .ok s' ∧ s'.groups = [] ∧ alts = s'.level.alternatives := by
  obtain ⟨s', hloop, h⟩ := ok_of_bind h
  obtain ⟨hg, h⟩ := ok_of_ite h
  refine ⟨s', hloop, ?_, (Except.ok.inj h).symm⟩
  simpa using hg

/-- What can be read does not begin with a repetition. -/
theorem head_of_alternatives {alts : List (Node × Nat)} (h : alternatives g l = .ok alts) :
    ∀ c ∈ l.head?, isRepetition c = false := by
  obtain ⟨s', hloop, -, -⟩ := exists_of_alternativesFrom h
  intro c hc
  obtain ⟨r, rfl⟩ : ∃ r, l = c :: r := by
    cases l with
    | nil => cases hc
    | cons d r => exact ⟨r, by rw [Option.some.inj hc]⟩
  refine Bool.eq_false_iff.mpr fun hrep => ?_
  have hskip : skip (start g).flags (c :: r) = c :: r := rfl
  rw [loop, hskip] at hloop
  obtain ⟨x, hstep, -⟩ := ok_of_bind hloop
  rw [stepOn_of_isBare ⟨rfl, rfl, rfl⟩ hrep] at hstep
  cases hstep

theorem exists_alternatives {n : Node} (h : Node.read g l = .ok n) :
    ∃ first others, alternatives g l = .ok (first :: others) ∧
      n = Node.ofAlts ((first :: others).map (·.1)) := by
  obtain ⟨alts, halts, h⟩ := ok_of_bind h
  obtain ⟨-, hn⟩ := ok_of_ite h
  obtain ⟨s', -, -, hlevel⟩ := exists_of_alternativesFrom halts
  obtain ⟨first, others, hl, -⟩ := s'.level.alternatives_after []
  rw [hlevel, hl] at halts hn
  exact ⟨_, others, halts, (Except.ok.inj hn).symm⟩

/-! ## Matches of items -/

theorem matches_ofItems_append (items pre : List Item) :
    (ofItems (items ++ pre)).1.Matches t p q ↔
      ∃ r, (Node.ofSeq (nodesOf pre)).Matches t p r ∧ (ofItems items).1.Matches t r q := by
  rw [ofItems_fst, ofItems_fst, nodesOf_append, matches_ofSeq_append]

/-- What stands in front of the first alternative has a match wherever the alternative is found. -/
theorem exists_matches_front {s : State} {pre : List Item} {source rest : List Char}
    {first : Node × Nat} {others : List (Node × Nat)}
    (hloop : loop g (start g) source = loop g (s.after pre) rest)
    (hrest : s.IsBare → ∀ c ∈ (skip s.flags rest).head?, isRepetition c = false)
    (hread : alternatives g source = .ok (first :: others)) (hf : first.1.found t = true) :
    ∃ p q, (Node.ofSeq (nodesOf pre)).Matches t p q := by
  have hfrom : alternativesFrom g (s.after pre) rest = .ok (first :: others) := by
    rw [← hread, alternatives, alternativesFrom, alternativesFrom, hloop]
  rcases alternativesFrom_after (g := g) pre rest hrest with ⟨e, -, herr⟩ | ⟨items, _, -, hok⟩
  · rw [herr] at hfrom
    cases hfrom
  · rw [hok] at hfrom
    cases hfrom
    obtain ⟨p, -, q, hq⟩ := (found_iff _ t).mp hf
    obtain ⟨r, hr, -⟩ := (matches_ofItems_append items pre).mp hq
    exact ⟨p, r, hr⟩

/-- Characters that stand for themselves match as many characters, one by one. -/
theorem matches_literals (f : Flags) (a : List Char) :
    (Node.ofSeq (a.map (literal f))).Matches t p q ↔
      q = p + a.length ∧
        List.Forall₂ (fun c d => (foldedBy f (.single c)).has d = true) a
          ((t.drop p).take a.length) := by
  induction a generalizing p with
  | nil => simp [Node.ofSeq, Node.Matches, @eq_comm _ q]
  | cons c a ih =>
    rw [List.map_cons, matches_ofSeq_cons]
    simp only [ih, literal, Node.Matches]
    cases hd : t.drop p with
    | nil =>
      have hnone : t[p]? = none := List.getElem?_eq_none (List.drop_eq_nil_iff.mp hd)
      simp only [hnone, List.take_nil]
      constructor
      · rintro ⟨_, ⟨e, he, -⟩, -⟩
        cases he
      · rintro ⟨-, hrest⟩
        cases hrest
    | cons d r =>
      have hsome : t[p]? = some d := by
        rw [← List.head?_drop, hd]
        rfl
      have hr : t.drop (p + 1) = r := by rw [← List.tail_drop, hd]; rfl
      simp only [hsome, List.length_cons, List.take_succ_cons, List.forall₂_cons]
      constructor
      · rintro ⟨_, ⟨e, he, hc, rfl⟩, rfl, hrest⟩
        cases he
        exact ⟨by omega, hc, hr ▸ hrest⟩
      · rintro ⟨rfl, hc, hrest⟩
        exact ⟨p + 1, ⟨d, rfl, hc, rfl⟩, by omega, hr ▸ hrest⟩

end RemoteSearch.Pattern

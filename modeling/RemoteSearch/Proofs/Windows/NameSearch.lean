import Mathlib.Data.List.Forall2
import RemoteSearch.Proofs.Pattern.Front
import RemoteSearch.Windows.Pipeline

/-!
# Names that searches on Windows hosts find

The constraints on the last name of a file, other than the name itself, are put together to one
regular expression: a lookahead that forbids the excluded name, and behind it the pattern. The
helper searches for it in the name of each file, ignoring case, from any place of the name.

The lookahead stands in front of the first alternative of the pattern, and forbids the excluded name
only where the name begins. So it does not forbid a match from a later place, or of another
alternative (`name_search_iff`): the excluded name itself is found then.
-/

namespace RemoteSearch.Windows

open Pattern Pattern.Parser Text.Case

variable {t : List Char} {p q : Nat}

/-! ## Searching in a name -/

/-- The grammar in which the helper reads its regular expressions. -/
def searchGrammar : Grammar := { lookahead := true, ignoreCase := true }

/-- Whether the helper finds a regular expression in a name. What is none finds nothing. -/
def finds (source name : String) : Bool :=
  match alternatives searchGrammar source.toList with
  | .ok l => l.any fun a => a.1.found name.toList
  | .error _ => false

/-- Whether two names differ at most in case, character by character. -/
def SameButCase (a name : List Char) : Prop := List.Forall₂ (fun c d => c ∈ variants d) a name

theorem finds_of_error {source : String} {e : Reject} (name : String)
    (h : alternatives searchGrammar source.toList = .error e) : finds source name = false := by
  unfold finds
  rw [h]

theorem finds_iff_of_ok {source : String} {first : Node × Nat} {others : List (Node × Nat)}
    (name : String) (h : alternatives searchGrammar source.toList = .ok (first :: others)) :
    finds source name = true ↔
      first.1.found name.toList = true ∨ ∃ b ∈ others, b.1.found name.toList = true := by
  unfold finds
  rw [h]
  simp only [List.any_cons, Bool.or_eq_true, List.any_eq_true]

/-! ## The lookahead -/

/-- What a whole name has to match, one after another. -/
def wholeNodes (a : List Char) : List Node :=
  .anchor .textStart :: (a.map (literal (start searchGrammar).flags) ++ [.anchor .textEnd])

theorem matches_wholeNodes (a : List Char) :
    (Node.ofSeq (wholeNodes a)).Matches t p q ↔ p = 0 ∧ q = t.length ∧ SameButCase a t := by
  have hhas : ∀ c d, (foldedBy (start searchGrammar).flags (.single c)).has d = true ↔
      c ∈ variants d := by
    intro c d
    simp [foldedBy, start, searchGrammar, CharClass.has]
  rw [wholeNodes, matches_ofSeq_cons]
  simp only [matches_ofSeq_append, matches_literals, hhas]
  constructor
  · rintro ⟨_, ⟨hp, rfl⟩, s, ⟨rfl, ha⟩, hend, rfl⟩
    obtain rfl : p = 0 := eq_of_beq hp
    have hlen : 0 + a.length = t.length := eq_of_beq hend
    rw [List.drop_zero, List.take_of_length_le (by omega)] at ha
    exact ⟨rfl, hlen, ha⟩
  · rintro ⟨rfl, rfl, ha⟩
    have hlen : a.length = t.length := ha.length_eq
    refine ⟨0, ⟨rfl, rfl⟩, t.length, ⟨by omega, ?_⟩, beq_self_eq_true _, rfl⟩
    rwa [List.drop_zero, List.take_of_length_le (Nat.le_of_eq hlen.symm)]

/-- The lookahead is one item in front of what follows it. -/
theorem loop_lookahead (a l : List Char) :
    ∃ depth, loop searchGrammar (start searchGrammar)
        ('(' :: '?' :: '!' :: '^' :: (escapeText a ++ '$' :: ')' :: l)) =
      loop searchGrammar
        ((start searchGrammar).after [some (.notAhead (.ofSeq (wholeNodes a)), depth)]) l := by
  let s := (start searchGrammar).enter (start searchGrammar).flags .negative
  obtain ⟨depth, hclose⟩ :=
    closeGroup_enter (start searchGrammar) (start searchGrammar).flags .negative (wholeNodes a)
  let s₁ := s.push (.anchor .textStart) 0
  let s₂ := s₁.pushAll (a.map (literal s₁.flags))
  have hflags : s₂.flags = s.flags := flags_pushAll _ _
  have hnodes : s₂.push (.anchor .textEnd) 0 = s.pushAll (wholeNodes a) := by
    simp [s₂, s₁, State.pushAll, wholeNodes, List.foldl_append, s, State.push, State.enter]
  refine ⟨depth, ?_⟩
  calc loop searchGrammar (start searchGrammar)
        ('(' :: '?' :: '!' :: '^' :: (escapeText a ++ '$' :: ')' :: l))
    _ = loop searchGrammar s ('^' :: (escapeText a ++ '$' :: ')' :: l)) :=
      loop_of_stepOn rfl rfl (by simp)
    _ = loop searchGrammar s₁ (escapeText a ++ '$' :: ')' :: l) :=
      loop_of_stepOn rfl rfl (Nat.le_refl _)
    _ = loop searchGrammar s₂ ('$' :: ')' :: l) := loop_escapeText rfl a _
    _ = loop searchGrammar (s.pushAll (wholeNodes a)) (')' :: l) := by
      refine loop_of_stepOn (by rw [hflags]; rfl) ?_ (Nat.le_refl _)
      have hline : s₂.flags.multiLine = false := by rw [hflags]; rfl
      simp [stepOn, hline, ← hnodes]
    _ = _ := by
      refine loop_of_stepOn (by rw [flags_pushAll]; rfl) ?_ (Nat.le_refl _)
      simp only [stepOn, s, hclose]
      rfl

/-- The lookahead matches no character, and anywhere but at the start of the excluded name. -/
theorem matches_lookahead (a : List Char) (depth : Nat) :
    (Node.ofSeq (nodesOf [some (.notAhead (.ofSeq (wholeNodes a)), depth)])).Matches t p q ↔
      (p = 0 → ¬SameButCase a t) ∧ p = q := by
  have hnode : nodesOf [some (.notAhead (.ofSeq (wholeNodes a)), depth)] =
      [.notAhead (.ofSeq (wholeNodes a))] := rfl
  simp only [hnode, Node.ofSeq, Node.Matches, matches_wholeNodes]
  constructor
  · rintro ⟨h, rfl⟩
    exact ⟨fun hp ha => h t.length ⟨hp, rfl, ha⟩, rfl⟩
  · rintro ⟨h, rfl⟩
    exact ⟨fun r hr => h hr.1 hr.2.2, rfl⟩

/-! ## What is found -/

/-- What a pattern finds behind the lookahead for a name. -/
theorem finds_lookahead_iff (a body name : String)
    (hbody : ∀ c ∈ body.toList.head?, isRepetition c = false) :
    finds s!"(?!^{escape a}$){body}" name = true ↔
      ∃ first others, alternatives searchGrammar body.toList = .ok (first :: others) ∧
        ((∃ i ≤ name.toList.length, (i = 0 → ¬SameButCase a.toList name.toList) ∧
            ∃ q, first.1.Matches name.toList i q) ∨
          ∃ b ∈ others, b.1.found name.toList = true) := by
  have htext : (s!"(?!^{escape a}$){body}").toList =
      '(' :: '?' :: '!' :: '^' :: (escapeText a.toList ++ '$' :: ')' :: body.toList) := by
    have hopen : (toString "(?!^").toList = ['(', '?', '!', '^'] := rfl
    have hclose : (toString "$)").toList = ['$', ')'] := rfl
    have hname : (toString (escape a)).toList = escapeText a.toList := String.toList_ofList
    have hself : (toString body).toList = body.toList := rfl
    rw [String.toList_append, String.toList_append, String.toList_append, hopen, hname, hclose,
      hself]
    simp
  obtain ⟨depth, hloop⟩ := loop_lookahead a.toList body.toList
  have hread : alternatives searchGrammar (s!"(?!^{escape a}$){body}").toList =
      alternativesFrom searchGrammar ((start searchGrammar).after
        [some (.notAhead (.ofSeq (wholeNodes a.toList)), depth)]) body.toList := by
    rw [htext, alternatives, alternativesFrom, alternativesFrom, hloop]
  rcases alternativesFrom_after (g := searchGrammar) (s := start searchGrammar)
      [some (.notAhead (.ofSeq (wholeNodes a.toList)), depth)] body.toList (fun _ => hbody) with
    ⟨e, hbodyErr, herr⟩ | ⟨items, others, hbodyOk, hok⟩
  · rw [finds_of_error name (hread.trans herr), alternatives, hbodyErr]
    simp
  · have hfirst : (ofItems (items ++ [some (.notAhead (.ofSeq (wholeNodes a.toList)), depth)])).1.found
        name.toList = true ↔
          ∃ i ≤ name.toList.length, (i = 0 → ¬SameButCase a.toList name.toList) ∧
            ∃ q, (ofItems items).1.Matches name.toList i q := by
      rw [found_iff]
      refine exists_congr fun i => and_congr_right fun _ => ?_
      simp only [matches_ofItems_append, matches_lookahead]
      constructor
      · rintro ⟨q, _, ⟨ha, rfl⟩, hq⟩
        exact ⟨ha, q, hq⟩
      · rintro ⟨ha, q, hq⟩
        exact ⟨q, i, ⟨ha, rfl⟩, hq⟩
    rw [finds_iff_of_ok name (hread.trans hok), hfirst, alternatives, hbodyOk]
    simp

/-- Without a pattern, every name of one line is found but the excluded one. -/
theorem finds_anything_iff (a name : String) (hname : '\n' ∉ name.toList) :
    finds s!"(?!^{escape a}$)(^.*$)" name = true ↔ ¬SameButCase a.toList name.toList := by
  let any : Node := .seq (.anchor .textStart)
    (.seq (.rep (.one (.compl (.single '\n'))) true 0 none) (.anchor .textEnd))
  have hread : alternatives searchGrammar "(^.*$)".toList = .ok [(.group (some 1) any, 3)] := by
    decide +kernel
  have hstart : ∀ i q, (Node.group (some 1) any).Matches name.toList i q → i = 0 := by
    rintro i q ⟨r, ⟨hi, -⟩, -⟩
    exact eq_of_beq hi
  have hmatch : (Node.group (some 1) any).Matches name.toList 0 name.toList.length := by
    refine ⟨0, ⟨rfl, rfl⟩, name.toList.length, ⟨name.toList.length, Nat.zero_le _, by simp, ?_⟩,
      beq_self_eq_true _, rfl⟩
    have hsteps := @steps_one name.toList (.compl (.single '\n')) name.toList.length 0 fun i _ hi =>
      have hi : i < name.toList.length := by omega
      have hne : '\n' ≠ name.toList[i] := fun he => hname (he ▸ List.getElem_mem hi)
      ⟨name.toList[i], List.getElem?_eq_getElem hi, by simp [CharClass.has, hne]⟩
    rwa [Nat.zero_add] at hsteps
  let body := "(^.*$)"
  have hsplit : s!"(?!^{escape a}$)(^.*$)" = s!"(?!^{escape a}$){body}" := by
    have hend : toString "$)(^.*$)" = toString "$)" ++ toString body := by decide
    simp only [hend, String.append_assoc]
  have hbody : ∀ c ∈ body.toList.head?, isRepetition c = false := by
    have hhead : body.toList.head? = some '(' := by decide
    rintro c hc
    obtain rfl : '(' = c := Option.some.inj (hhead.symm.trans hc)
    rfl
  rw [hsplit, finds_lookahead_iff a body name hbody]
  constructor
  · rintro ⟨first, others, hok, hfound⟩
    rw [hread] at hok
    cases hok
    rcases hfound with ⟨i, -, ha, q, hq⟩ | ⟨b, hb, -⟩
    · exact ha (hstart i q hq)
    · cases hb
  · intro ha
    exact ⟨_, [], hread, .inl ⟨0, Nat.zero_le _, fun _ => ha, _, hmatch⟩⟩

/-- Whether a pattern is found in a name otherwise than by its first alternative at the start. -/
def FoundElsewhere (p : Regex) (name : String) : Prop :=
  ∃ first others, alternatives searchGrammar p.source.toList = .ok (first :: others) ∧
    ((∃ i ≤ name.toList.length, 0 < i ∧ ∃ q, first.1.Matches name.toList i q) ∨
      ∃ b ∈ others, b.1.found name.toList = true)

/-- A pattern behind the lookahead for a name. -/
theorem finds_pattern_iff (a name : String) (p : Regex) :
    finds s!"(?!^{escape a}$){p.source}" name = true ↔
      (¬SameButCase a.toList name.toList ∧ finds p.source name = true) ∨
        (SameButCase a.toList name.toList ∧ FoundElsewhere p name) := by
  obtain ⟨_, _, hp, -⟩ := exists_alternatives p.read_eq
  rw [finds_lookahead_iff a p.source name (head_of_alternatives hp)]
  by_cases ha : SameButCase a.toList name.toList
  · simp only [ha, not_true_eq_false, false_and, false_or, true_and, FoundElsewhere, imp_false,
      Nat.pos_iff_ne_zero]
  · simp only [ha, not_false_eq_true, true_and, false_and, or_false, implies_true]
    constructor
    · rintro ⟨first, others, hok, hfound⟩
      rw [finds_iff_of_ok name hok, found_iff]
      exact hfound
    · intro hf
      cases hread : alternatives searchGrammar p.source.toList with
      | error e => simp [finds_of_error name hread] at hf
      | ok l =>
        cases l with
        | nil => simp [finds, hread] at hf
        | cons first others =>
          refine ⟨first, others, rfl, ?_⟩
          rwa [finds_iff_of_ok name hread, found_iff] at hf

/--
**What the expression for constraints on names finds.** Names of files have one line. In any such
name the expression is found if the name is not the excluded one, up to case, and the pattern is
found in it, each as far as it is asked for. And it is found in the excluded name, if the pattern is
found there from a later place than the start or by another alternative than its first.
-/
theorem name_search_iff {f : NameFilter} {source name : String} (hs : nameSource f = some source)
    (hname : '\n' ∉ name.toList) :
    finds source name = true ↔
      ((∀ a ∈ f.differs, ¬SameButCase a.toList name.toList) ∧
          ∀ p ∈ f.pattern, finds p.source name = true) ∨
        ∃ a ∈ f.differs, ∃ p ∈ f.pattern,
          SameButCase a.toList name.toList ∧ FoundElsewhere p name := by
  unfold nameSource at hs
  cases hd : f.differs with
  | none =>
    cases hp : f.pattern with
    | none => simp [hd, hp] at hs
    | some p =>
      simp only [hd, hp, Option.some.injEq] at hs
      subst hs
      simp
  | some a =>
    cases hp : f.pattern with
    | none =>
      simp only [hd, hp, Option.some.injEq] at hs
      subst hs
      rw [finds_anything_iff a name hname]
      simp
    | some p =>
      simp only [hd, hp, Option.some.injEq] at hs
      subst hs
      rw [finds_pattern_iff]
      simp

instance (a name : List Char) : Decidable (SameButCase a name) :=
  inferInstanceAs (Decidable (List.Forall₂ (fun c d => c ∈ variants d) a name))

/-- A pattern at the start of names, and one name that is left out. -/
theorem other_name_is_found :
    ∃ p : Regex, p.source = "^setup" ∧
      nameSource { differs := some "setup.exe", pattern := some p } =
        some "(?!^setup\\.exe$)^setup" ∧
      '\n' ∉ "Setup.log".toList ∧ finds "(?!^setup\\.exe$)^setup" "Setup.log" = true := by
  obtain ⟨p, hp⟩ := Regex.exists_source "^setup" (by decide +kernel)
  have hs : nameSource { differs := some "setup.exe", pattern := some p } =
      some "(?!^setup\\.exe$)^setup" := by
    simp only [nameSource, hp]
    decide +kernel
  have hname : '\n' ∉ "Setup.log".toList := by decide
  refine ⟨p, hp, hs, hname, (name_search_iff hs hname).mpr (.inl ⟨?_, ?_⟩)⟩
  · rintro a ⟨⟩
    decide +kernel
  · rintro p' ⟨⟩
    rw [hp]
    decide +kernel

/--
**The excluded name is found** if the pattern is found further on in it, or by another alternative
than its first.
-/
theorem excluded_name_is_found :
    ∃ p₁ p₂ : Regex, p₁.source = "b" ∧ p₂.source = "old|core" ∧
      nameSource { differs := some "ab", pattern := some p₁ } = some "(?!^ab$)b" ∧
      nameSource { differs := some "core", pattern := some p₂ } = some "(?!^core$)old|core" ∧
      SameButCase "ab".toList "ab".toList ∧ finds "(?!^ab$)b" "ab" = true ∧
      SameButCase "core".toList "core".toList ∧ finds "(?!^core$)old|core" "core" = true := by
  obtain ⟨p₁, h₁⟩ := Regex.exists_source "b" (by decide +kernel)
  obtain ⟨p₂, h₂⟩ := Regex.exists_source "old|core" (by decide +kernel)
  refine ⟨p₁, p₂, h₁, h₂, ?_, ?_, by decide +kernel, by decide +kernel, by decide +kernel,
    by decide +kernel⟩
  · simp only [nameSource, h₁]
    decide +kernel
  · simp only [nameSource, h₂]
    decide +kernel

end RemoteSearch.Windows

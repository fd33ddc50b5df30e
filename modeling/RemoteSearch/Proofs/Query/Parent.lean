import Mathlib.Data.List.DropRight
import RemoteSearch.Proofs.Path
import RemoteSearch.Proofs.Pattern.Front
import RemoteSearch.Query.Parent

/-!
# Directories that patterns stay in

The directory that is guessed from a pattern is read off the characters at its front that the guess
takes as literal (`literalPart_eq`). What the pattern matches begins with the same characters
(`begins_with_sure`), but for three differences: conditions on places look like characters to the
guess, a plus that is itself repeated makes the character before it optional, and other alternatives
need not begin alike (`guess_holds_unless_sign`).
-/

namespace RemoteSearch.Query

open Text Pattern Pattern.Parser

variable {t : List Char} {p q : Nat}

/-! ## What the guess takes as literal -/

/-- A character that the guess takes as literal, and whether a backslash stands before it. -/
structure Literal where
  char : Char
  escaped : Bool
  deriving Repr, DecidableEq, Inhabited

namespace Literal

/-- How the character stands in the pattern. -/
def write (x : Literal) : List Char := if x.escaped then ['\\', x.char] else [x.char]

/-- Whether the character is a condition on a place: the start of the text, or of a word, or the end
of a word. -/
def isSign (x : Literal) : Bool :=
  if x.escaped then x.char == '<' || x.char == '>' else x.char == '^'

/-- What the character means in the pattern. -/
def node (x : Literal) : Node :=
  if x.isSign then
    .anchor (if x.char = '<' then .wordStart false else if x.char = '>' then .wordEnd false
      else .textStart)
  else literal {} x.char

/-- Whether the guess takes the character as literal. -/
def isTaken (x : Literal) : Bool :=
  if x.escaped then !x.char.isAlphanum
  else !(['\\', '|', '.', '[', '(', '$', '+', '*', '?', '\x7b'].contains x.char)

end Literal

/-- The characters that the guess takes as literal, and the rest of the pattern. -/
def scan : List Char → List Literal × List Char
  | [] => ([], [])
  | '\\' :: c :: r =>
    if c.isAlphanum then ([], '\\' :: c :: r)
    else (⟨c, true⟩ :: (scan r).1, (scan r).2)
  | c :: r =>
    if (Literal.mk c false).isTaken then (⟨c, false⟩ :: (scan r).1, (scan r).2) else ([], c :: r)

theorem append_of_scan (l : List Char) :
    l = (scan l).1.flatMap Literal.write ++ (scan l).2 := by
  fun_induction scan l with
  | case1 => simp
  | case2 c r h => simp
  | case3 c r h ih => simp [Literal.write, ← ih]
  | case4 c r hc h ih => simp [Literal.write, ← ih]
  | case5 c r hc h => simp

theorem isTaken_of_mem_scan (l : List Char) : ∀ x ∈ (scan l).1, x.isTaken = true := by
  fun_induction scan l with
  | case1 => simp
  | case2 c r h => simp
  | case3 c r h ih =>
    have hc : (Literal.mk c true).isTaken = true := by simpa [Literal.isTaken] using h
    simpa [hc] using ih
  | case4 c r hc h ih => simpa [h] using ih
  | case5 c r hc h => simp

/-- Whether a repetition follows that makes the guess give up the last character. -/
def givesUp (rest : List Char) : Bool := rest.head?.any fun c => ['*', '?', '\x7b'].contains c

/-- A character at which the scan ends, other than an escape. -/
theorem scan_of_not_isTaken {c : Char} {r : List Char}
    (he : ∀ d r', c = '\\' → r = d :: r' → False) (h : (Literal.mk c false).isTaken = false) :
    scan (c :: r) = ([], c :: r) := by
  rw [scan]
  · simp [h]
  · exact he

/-- What the guess takes from a pattern, in terms of the scan. -/
theorem literalPart_eq (acc l : List Char) :
    literalPart acc l =
      if (scan l).2.head? = some '|' then none
      else if givesUp (scan l).2 then some (acc.reverse ++ (scan l).1.map Literal.char).dropLast
      else some (acc.reverse ++ (scan l).1.map Literal.char) := by
  fun_induction literalPart acc l with
  | case1 acc => simp [scan, givesUp]
  | case2 acc c r h => simp [scan, h, givesUp]
  | case3 acc c r h ih => simp [scan, h, ih]
  | case4 acc r h => simp [scan_of_not_isTaken h rfl, givesUp]
  | case5 acc r h => simp [scan_of_not_isTaken h rfl]
  | case6 acc c r he hb hbar hstop =>
    have ht : (Literal.mk c false).isTaken = false := by
      simp only [Literal.isTaken, List.contains_eq_mem, List.mem_cons] at hstop ⊢
      grind
    have hg : givesUp (c :: r) = false := by
      simp only [givesUp, List.contains_eq_mem, List.mem_cons] at hstop ⊢
      grind
    simp [scan_of_not_isTaken he ht, hg, hbar]
  | case7 acc c r he hb hbar hstop hrep =>
    have ht : (Literal.mk c false).isTaken = false := by
      simp only [Literal.isTaken, List.contains_eq_mem, List.mem_cons] at hrep ⊢
      grind
    have hg : givesUp (c :: r) = true := by simpa [givesUp] using hrep
    simp [scan_of_not_isTaken he ht, hg, hbar]
  | case8 acc c r he hb hbar hstop hrep ih =>
    have ht : (Literal.mk c false).isTaken = true := by
      simp only [Literal.isTaken, List.contains_eq_mem, List.mem_cons] at hstop hrep ⊢
      grind
    have hscan : scan (c :: r) = (⟨c, false⟩ :: (scan r).1, (scan r).2) := by
      rw [scan]
      · simp [ht]
      · exact he
    simp [hscan, ih]

/-- The characters from which the guess is made. -/
def kept (body : List Char) : List Literal :=
  if givesUp (scan body).2 then (scan body).1.dropLast else (scan body).1

theorem eq_of_literalPart {body text : List Char} (h : literalPart [] body = some text) :
    text = (kept body).map Literal.char := by
  rw [literalPart_eq] at h
  unfold kept
  split at h
  · cases h
  · split at h
    · rename_i hg
      obtain rfl := Option.some.inj h
      simp [hg, List.map_dropLast]
    · rename_i hg
      obtain rfl := Option.some.inj h
      simp [hg]

/-! ## What the reader makes of them -/

/-- A round of the reader on an escape that the guess takes as literal. -/
theorem stepOn_escape {s : State} {c : Char} {l : List Char} {x : State × List Char}
    (hf : s.flags = {}) (hc : (Literal.mk c true).isTaken = true)
    (h : stepOn {} s '\\' (c :: l) = .ok x) : x = (s.push (Literal.mk c true).node 0, l) := by
  have hread := escapeSequence_sign {} (by simpa [Literal.isTaken] using hc) l
  simp only [stepOn, hf, hread] at h
  by_cases hlt : c = '<'
  · subst hlt
    exact (Except.ok.inj h).symm
  · by_cases hgt : c = '>'
    · subst hgt
      exact (Except.ok.inj h).symm
    · have hnode : (Literal.mk c true).node = literal {} c := by
        simp [Literal.node, Literal.isSign, hlt, hgt]
      rw [if_neg hlt, if_neg hgt] at h
      split at h
      · rw [hnode]
        exact (Except.ok.inj h).symm
      · cases h

/-- A round of the reader on another character that the guess takes as literal. -/
theorem stepOn_bare {s : State} {c : Char} {l : List Char} {x : State × List Char}
    (hf : s.flags = {}) (hg : s.groups = []) (hc : (Literal.mk c false).isTaken = true)
    (h : stepOn {} s c l = .ok x) : x = (s.push (Literal.mk c false).node 0, l) := by
  by_cases hhat : c = '^'
  · subst hhat
    simp only [stepOn, hf] at h
    exact (Except.ok.inj h).symm
  · by_cases hclose : c = ')'
    · subst hclose
      simp [stepOn, closeGroup, hg, Except.map] at h
    · have hs : isSpecial c = false := by
        simp only [isSpecial, Literal.isTaken, List.contains_eq_mem] at hc ⊢
        simp_all
      have hnode : (Literal.mk c false).node = literal {} c := by
        simp [Literal.node, Literal.isSign, hhat]
      rw [stepOn_plain hs, hf] at h
      rw [hnode]
      exact (Except.ok.inj h).symm

/-- Characters that the guess takes as literal are read one by one. -/
theorem loop_literals {s : State} (hf : s.flags = {}) (hg : s.groups = []) {ls : List Literal}
    (hls : ∀ x ∈ ls, x.isTaken = true) (l : List Char) {s' : State}
    (h : loop {} s (ls.flatMap Literal.write ++ l) = .ok s') :
    loop {} s (ls.flatMap Literal.write ++ l) = loop {} (s.pushAll (ls.map Literal.node)) l := by
  induction ls generalizing s with
  | nil => rfl
  | cons x ls ih =>
    have hv : s.flags.verbose = false := by rw [hf]
    have hx := hls x List.mem_cons_self
    have hstep : loop {} s ((x :: ls).flatMap Literal.write ++ l) =
        loop {} (s.push x.node 0) (ls.flatMap Literal.write ++ l) := by
      obtain ⟨c, escaped⟩ := x
      cases escaped with
      | true =>
        have htext : (Literal.mk c true :: ls).flatMap Literal.write ++ l =
            '\\' :: c :: (ls.flatMap Literal.write ++ l) := rfl
        rw [htext] at h ⊢
        obtain ⟨y, hy⟩ := exists_stepOn_of_loop hv h
        obtain rfl := stepOn_escape hf hx hy
        exact loop_of_stepOn hv hy (Nat.le_succ _)
      | false =>
        have htext : (Literal.mk c false :: ls).flatMap Literal.write ++ l =
            c :: (ls.flatMap Literal.write ++ l) := rfl
        rw [htext] at h ⊢
        obtain ⟨y, hy⟩ := exists_stepOn_of_loop hv h
        obtain rfl := stepOn_bare hf hg hx hy
        exact loop_of_stepOn hv hy (Nat.le_refl _)
    rw [hstep] at h ⊢
    exact ih (s := s.push x.node 0) hf hg (fun y hy => hls y (List.mem_cons_of_mem x hy)) h

/-! ## What every match begins with -/

/-- The characters that are not conditions on places. -/
def visible (ls : List Literal) : List Char := (ls.filter (!·.isSign)).map Literal.char

theorem matches_node {x : Literal} (h : x.node.Matches t p q) :
    if x.isSign then q = p else t[p]? = some x.char ∧ q = p + 1 := by
  unfold Literal.node at h
  split
  · rename_i hs
    rw [if_pos hs] at h
    exact h.2.symm
  · rename_i hs
    rw [if_neg hs] at h
    obtain ⟨c, hc, hone, rfl⟩ := h
    have heq : x.char = c := by simpa [foldedBy] using hone
    exact ⟨heq ▸ hc, rfl⟩

theorem visible_prefix_of_matches {ls : List Literal}
    (h : (Node.ofSeq (ls.map Literal.node)).Matches t p q) : visible ls <+: t.drop p := by
  induction ls generalizing p with
  | nil => exact List.nil_prefix
  | cons x ls ih =>
    rw [List.map_cons, matches_ofSeq_cons] at h
    obtain ⟨r, hx, hrest⟩ := h
    have hnode := matches_node hx
    have hls := ih hrest
    cases hs : x.isSign with
    | true =>
      simp only [hs, if_true] at hnode
      simpa [visible, hs, hnode] using hls
    | false =>
      simp only [hs, Bool.false_eq_true, if_false] at hnode
      obtain ⟨hc, rfl⟩ := hnode
      obtain ⟨hlt, hget⟩ := List.getElem?_eq_some_iff.mp hc
      rw [List.drop_eq_getElem_cons hlt, hget]
      simpa [visible, hs] using hls

/-- Whether a plus follows that is itself repeated. -/
def repeatsPlus : List Char → Bool
  | '+' :: r => (readTurn r).2.head?.any isRepetition
  | _ => false

/-- The characters with which every match of the first alternative begins. -/
def sure (body : List Char) : List Literal :=
  if givesUp (scan body).2 ∨ repeatsPlus (scan body).2 then (scan body).1.dropLast
  else (scan body).1

/-- Matches that begin where the text begins. -/
theorem visible_prefix_of_anchored {ls : List Literal}
    (h : (Node.ofSeq (.anchor .textStart :: ls.map Literal.node)).Matches t p q) :
    visible ls <+: t := by
  rw [matches_ofSeq_cons] at h
  obtain ⟨_, ⟨hp, rfl⟩, h⟩ := h
  obtain rfl : p = 0 := eq_of_beq hp
  simpa using visible_prefix_of_matches h

/-- A pattern is read up to the end of the scan as one character after another. -/
theorem loop_scan {body : List Char} {s' : State}
    (h : loop {} (start {}) ('^' :: body) = .ok s') :
    loop {} (start {}) ('^' :: body) =
      loop {} ((start {}).pushAll (.anchor .textStart :: (scan body).1.map Literal.node))
        (scan body).2 := by
  have hhat : loop {} (start {}) ('^' :: body) =
      loop {} ((start {}).push (.anchor .textStart) 0) body :=
    loop_of_stepOn rfl rfl (Nat.le_refl _)
  rw [hhat] at h ⊢
  rw [append_of_scan body] at h
  have hread := loop_literals rfl rfl (isTaken_of_mem_scan body) (scan body).2 h
  rw [← append_of_scan body] at hread
  exact hread

/-- The last node is what a repetition can repeat, the others stand in front of it. -/
theorem pushAll_concat (l : List Node) (n : Node) :
    (start {}).pushAll (l ++ [n]) = ((start {}).push n 0).after (leaves l) := by
  have hlast : (start {}).pushAll (l ++ [n]) = ((start {}).pushAll l).push n 0 := by
    simp [State.pushAll]
  rw [hlast, pushAll_start]
  rfl

/-- A plus behind nodes, which is not itself repeated. -/
theorem loop_plus (l : List Node) (n : Node) (r : List Char) :
    loop {} ((start {}).pushAll (l ++ [n])) ('+' :: r) =
      loop {} ((start {}).after (some (.rep n ((!(readTurn r).1) != false) 1 none, 1) :: leaves l))
        (readTurn r).2 := by
  have hle : (readTurn r).2.length ≤ r.length := by
    unfold readTurn
    split
    · exact Nat.le_succ _
    · exact Nat.le_refl _
  rw [pushAll_concat]
  exact loop_of_stepOn rfl rfl hle

/-- Where a character stands once or more, it stands. -/
theorem matches_of_matches_plus {l : List Node} {n : Node} {greedy : Bool}
    (h : (Node.ofSeq (l ++ [.rep n greedy 1 none])).Matches t p q) :
    ∃ q', (Node.ofSeq (l ++ [n])).Matches t p q' := by
  obtain ⟨r, hl, k, hk, -, hsteps⟩ := (matches_ofSeq_append l _).mp h
  obtain ⟨k, rfl⟩ := Nat.exists_eq_add_of_le' hk
  obtain ⟨q', hn, -⟩ := hsteps
  exact ⟨q', (matches_ofSeq_append l _).mpr ⟨r, hl, hn⟩⟩

theorem isRepetition_of_head {l : List Char} (h : l.head?.any isRepetition = false) :
    ∀ c ∈ (skip {} l).head?, isRepetition c = false := by
  intro c hc
  have hskip : skip {} l = l := rfl
  rw [hskip] at hc
  rw [Option.mem_def.mp hc] at h
  exact h

/-- Where a repetition follows that is not given up, it is a plus. -/
theorem exists_plus {rest : List Char} (hrep : rest.head?.any isRepetition = true)
    (h : ¬(givesUp rest = true ∨ repeatsPlus rest = true)) :
    ∃ r, rest = '+' :: r ∧ (readTurn r).2.head?.any isRepetition = false := by
  obtain ⟨hgive, hplus⟩ := not_or.mp h
  cases rest with
  | nil => simp at hrep
  | cons c r =>
    obtain rfl : c = '+' := by
      simp only [givesUp, List.head?_cons, Option.any_some, isRepetition, List.contains_eq_mem,
        List.mem_cons] at hgive hrep
      grind
    exact ⟨r, rfl, by simpa [repeatsPlus] using hplus⟩

/-- Without a repetition nothing is given up. -/
theorem not_givesUp {rest : List Char} (hrep : rest.head?.any isRepetition = false) :
    ¬(givesUp rest = true ∨ repeatsPlus rest = true) := by
  cases rest with
  | nil => simp [givesUp, repeatsPlus]
  | cons c r =>
    simp only [List.head?_cons, Option.any_some, isRepetition, List.contains_eq_mem,
      List.mem_cons] at hrep
    have hc : c ≠ '+' := by grind
    have hplus : repeatsPlus (c :: r) = false := by
      unfold repeatsPlus
      split
      · rename_i heq
        exact absurd (List.cons.inj heq).1 hc
      · rfl
    have hgive : givesUp (c :: r) = false := by
      simp only [givesUp, List.head?_cons, Option.any_some, List.contains_eq_mem, List.mem_cons]
      grind
    simp [hplus, hgive]

/-- **What the first alternative of an anchored pattern matches begins with its characters.** -/
theorem begins_with_sure {body : List Char} {first : Node × Nat} {others : List (Node × Nat)}
    (hread : alternatives {} ('^' :: body) = .ok (first :: others)) (hf : first.1.found t = true) :
    visible (sure body) <+: t := by
  obtain ⟨s', hok, -, -⟩ := exists_of_alternativesFrom hread
  have hloop := loop_scan hok
  unfold sure
  generalize (scan body).2 = rest at hloop ⊢
  generalize (scan body).1 = ls at hloop ⊢
  cases hrep : rest.head?.any isRepetition with
  | false =>
    rw [if_neg (not_givesUp hrep)]
    rw [pushAll_start] at hloop
    obtain ⟨p, q, h⟩ := exists_matches_front (s := start {}) hloop
      (fun _ => isRepetition_of_head hrep) hread hf
    rw [nodesOf_leaves] at h
    exact visible_prefix_of_anchored h
  | true =>
    rcases List.eq_nil_or_concat' ls with rfl | ⟨init, x, rfl⟩
    · simp [visible]
    · -- the last character belongs to the repetition
      let front : List Node := .anchor .textStart :: init.map Literal.node
      have hnodes : Node.anchor .textStart :: (init ++ [x]).map Literal.node = front ++ [x.node] := by
        simp [front]
      rw [hnodes] at hloop
      by_cases hgive : givesUp rest = true ∨ repeatsPlus rest = true
      · rw [if_pos hgive, List.dropLast_concat]
        rw [pushAll_concat] at hloop
        obtain ⟨p, q, h⟩ := exists_matches_front hloop
          (fun hb => absurd hb (not_isBare_push _ _ _)) hread hf
        rw [nodesOf_leaves] at h
        exact visible_prefix_of_anchored h
      · rw [if_neg hgive]
        obtain ⟨r, rfl, hr⟩ := exists_plus hrep hgive
        rw [loop_plus] at hloop
        obtain ⟨p, q, h⟩ := exists_matches_front (s := start {}) hloop
          (fun _ => isRepetition_of_head hr) hread hf
        have hplus : nodesOf (some (.rep x.node ((!(readTurn r).1) != false) 1 none, 1) ::
            leaves front) = front ++ [.rep x.node ((!(readTurn r).1) != false) 1 none] := by
          rw [← List.singleton_append, nodesOf_append, nodesOf_leaves]
          rfl
        rw [hplus] at h
        obtain ⟨q', h⟩ := matches_of_matches_plus h
        rw [← hnodes] at h
        exact visible_prefix_of_anchored h

/-! ## The directory -/

/-- The guess ends at the last delimiter. -/
theorem exists_of_directoryOf {d : Char} {l x : List Char} (h : directoryOf d l = some x) :
    ∃ parent rest, l = parent ++ d :: rest ∧ d ∉ rest ∧
      Path.dropTrailing d x = Path.dropTrailing d parent := by
  obtain ⟨⟨parent, rest⟩, hcut, rfl⟩ := Option.map_eq_some_iff.mp h
  have hl := append_of_cutAtLast hcut
  refine ⟨parent, rest, by simpa using hl, ?_, ?_⟩
  · obtain ⟨⟨a, b⟩, hab, he⟩ := Option.map_eq_some_iff.mp hcut
    obtain ⟨-, rfl⟩ := Prod.mk.inj he
    rw [List.mem_reverse]
    exact notMem_of_cutAt hab
  · dsimp only
    split
    · rename_i he
      rw [List.isEmpty_iff.mp he]
      exact Path.dropTrailing_append_self d []
    · split
      · exact Path.dropTrailing_append_self d parent
      · rfl

/-- The characters of a pattern up to the last delimiter from which a directory is guessed. -/
def basis (source : String) (d : Char) : List Literal :=
  (kept source.toList.tail).rdropWhile fun x => x.char != d

/-- Whether the last delimiter from which a directory is guessed is under a repeated plus. -/
def losesDelimiter (source : String) (d : Char) : Bool :=
  repeatsPlus (scan source.toList.tail).2 && (kept source.toList.tail).getLast?.any (·.char == d)

theorem basis_eq {source : String} {d : Char} {before after : List Literal} {y : Literal}
    (hkept : kept source.toList.tail = before ++ y :: after) (hy : y.char = d)
    (hafter : ∀ x ∈ after, x.char ≠ d) : basis source d = before ++ [y] := by
  have hdrop : ∀ x ∈ after.reverse, (x.char != d) = true := by
    intro x hx
    simpa using hafter x (List.mem_reverse.mp hx)
  rw [basis, hkept, List.rdropWhile, List.reverse_append, List.reverse_cons, List.append_assoc,
    List.dropWhile_append_of_pos hdrop]
  simp [hy]

/-- A guess is made from the characters up to the last delimiter. -/
theorem exists_of_guessParent {source d : String} {δ : Char} (h : guessParent source δ = some d) :
    ∃ before y after, source.toList = '^' :: source.toList.tail ∧
      kept source.toList.tail = before ++ y :: after ∧ y.char = δ ∧
      (∀ x ∈ after, x.char ≠ δ) ∧
      Path.dropTrailing δ d.toList = Path.dropTrailing δ (before.map Literal.char) := by
  obtain ⟨x, hx, rfl⟩ := Option.map_eq_some_iff.mp h
  unfold parentText at hx
  split at hx
  · rename_i body hsource
    obtain ⟨text, htext, hdir⟩ := Option.bind_eq_some_iff.mp hx
    obtain ⟨parent, rest, hl, hrest, hdrop⟩ := exists_of_directoryOf hdir
    rw [eq_of_literalPart htext] at hl
    obtain ⟨before, tail, hkept, rfl, htail⟩ := List.map_eq_append_iff.mp hl
    obtain ⟨y, after, rfl, hy, rfl⟩ := List.map_eq_cons_iff.mp htail
    refine ⟨before, y, after, by rw [hsource, List.tail_cons], by rwa [hsource], hy, ?_, ?_⟩
    · rintro z hz rfl
      exact hrest (List.mem_map_of_mem hz)
    · simpa using hdrop
  · cases hx

/-- The characters of a guess are among those with which every match begins. -/
theorem basis_prefix_sure {source : String} {d : Char} {before after : List Literal} {y : Literal}
    (hkept : kept source.toList.tail = before ++ y :: after) (hy : y.char = d)
    (hplus : losesDelimiter source d = false) : before ++ [y] <+: sure source.toList.tail := by
  unfold sure
  by_cases hgive : givesUp (scan source.toList.tail).2 = true
  · have hsure : (scan source.toList.tail).1.dropLast = before ++ y :: after := by
      simpa [kept, hgive] using hkept
    rw [if_pos (.inl hgive), hsure]
    exact ⟨after, by simp⟩
  · have hscan : (scan source.toList.tail).1 = before ++ y :: after := by
      simpa [kept, hgive] using hkept
    by_cases hrep : repeatsPlus (scan source.toList.tail).2 = true
    · rw [if_pos (.inr hrep), hscan]
      rcases List.eq_nil_or_concat' after with rfl | ⟨init, z, rfl⟩
      · simp [losesDelimiter, hrep, hkept, hy] at hplus
      · rw [← List.cons_append, ← List.append_assoc, List.dropLast_concat]
        exact ⟨init, by simp⟩
    · rw [if_neg (by simp [hgive, hrep]), hscan]
      exact ⟨after, by simp⟩

theorem visible_mono {ls ls' : List Literal} (h : ls <+: ls') : visible ls <+: visible ls' :=
  (h.filter _).map _

/-- Signs are no delimiters, so leaving them out leaves all delimiters. -/
theorem count_visible {d : Char} (hd : d ∉ ['^', '<', '>']) (ls : List Literal) :
    (visible ls).count d = (ls.map Literal.char).count d := by
  induction ls with
  | nil => rfl
  | cons x ls ih =>
    cases hs : x.isSign with
    | false => simpa [visible, hs, List.count_cons] using ih
    | true =>
      have hne : x.char ≠ d := by
        rintro rfl
        simp only [Literal.isSign] at hs
        grind
      simpa [visible, hs, List.count_cons, hne] using ih

/-- Leaving signs out makes a text shorter. -/
theorem length_visible_lt {ls : List Literal} {x : Literal} (hx : x ∈ ls) (hs : x.isSign = true) :
    (visible ls).length < ls.length := by
  rw [visible, List.length_map]
  exact List.length_filter_lt_length_iff_exists.mpr ⟨x, hx, by simp [hs]⟩

theorem isSign_of_char {d : Char} (hd : d ∉ ['^', '<', '>']) {x : Literal} (hx : x.char = d) :
    x.isSign = false := by
  subst hx
  simp only [List.mem_cons, List.not_mem_nil, or_false, not_or] at hd
  cases hs : x.escaped <;> simp [Literal.isSign, hs, hd]

/--
A guess with a sign in it lies beside every match: the match has as many delimiters in a shorter
text.
-/
theorem not_isWithinText_of_isSign {d : Char} (hd : d ∉ ['^', '<', '>']) {before : List Literal}
    {y : Literal} (hy : y.char = d) (hsign : ∃ x ∈ before ++ [y], x.isSign = true)
    (hpath : visible (before ++ [y]) <+: t) :
    Path.isWithinText d t (before.map Literal.char) = false := by
  by_contra hin
  rw [Bool.not_eq_false] at hin
  have hroot := Path.prefix_of_isWithinText hin
  obtain ⟨n, hn⟩ := Path.exists_dropTrailing d (before.map Literal.char)
  obtain ⟨front, back, rfl, hfront, hback⟩ := List.map_eq_append_iff.mp hn
  -- the delimiters at the end are no signs
  have hplain : ∀ x ∈ back ++ [y], x.isSign = false := by
    intro x hx
    rcases List.mem_append.mp hx with hx | hx
    · have hmem : x.char ∈ List.replicate n d := hback ▸ List.mem_map_of_mem hx
      exact isSign_of_char hd (List.eq_of_mem_replicate hmem)
    · rw [List.mem_singleton.mp hx]
      exact isSign_of_char hd hy
  obtain ⟨x, hx, hs⟩ : ∃ x ∈ front, x.isSign = true := by
    obtain ⟨x, hx, hs⟩ := hsign
    rw [List.append_assoc] at hx
    rcases List.mem_append.mp hx with hx | hx
    · exact ⟨x, hx, hs⟩
    · rw [hplain x hx] at hs
      cases hs
  have hvisible : visible (front ++ back ++ [y]) = visible front ++ List.replicate (n + 1) d := by
    have hfilter : (back ++ [y]).filter (!·.isSign) = back ++ [y] :=
      List.filter_eq_self.mpr fun x hx => by simp [hplain x hx]
    rw [List.append_assoc, visible, List.filter_append, hfilter, List.map_append, List.map_append,
      hback, List.map_singleton, hy, List.replicate_succ', visible]
  rw [hvisible, List.replicate_succ] at hpath
  have hshort : visible front ++ [d] <+: Path.dropTrailing d ((front ++ back).map Literal.char) := by
    have hbegin : visible front ++ [d] <+: t := .trans ⟨List.replicate n d, by simp⟩ hpath
    refine List.prefix_of_prefix_length_le hbegin hroot ?_
    rw [← hfront, List.length_append, List.length_map]
    exact length_visible_lt hx hs
  have hcount := hshort.sublist.count_le d
  rw [← hfront, List.count_append, count_visible hd, List.count_singleton_self] at hcount
  omega

/-- Whether a text is found by the first alternative of a pattern. -/
def FoundFirst (p : Regex) (s : String) : Prop :=
  ∃ first others, alternatives {} p.source.toList = .ok (first :: others) ∧
    first.1.found s.toList = true

/--
**When a guess holds.** Take any pattern from which a directory is guessed, and any path that its
first alternative finds; the last delimiter of the guess must not be under a plus that is itself
repeated. If no condition on a place was taken for a character up to that delimiter, the path lies
within the directory. Otherwise it does not, unless such conditions are written with the delimiter.
-/
theorem guess_holds_unless_sign {p : Regex} {δ : Char} {d path : String}
    (hguess : guessParent p.source δ = some d) (hfound : FoundFirst p path)
    (hplus : losesDelimiter p.source δ = false) :
    ((∀ x ∈ basis p.source δ, x.isSign = false) → Path.isWithin path d δ false = true) ∧
      (δ ∉ ['^', '<', '>'] → (∃ x ∈ basis p.source δ, x.isSign = true) →
        Path.isWithin path d δ false = false) := by
  obtain ⟨before, y, after, hsource, hkept, hy, hafter, hdrop⟩ := exists_of_guessParent hguess
  obtain ⟨first, others, hread, hf⟩ := hfound
  rw [hsource] at hread
  have hpath : visible (before ++ [y]) <+: path.toList :=
    (visible_mono (basis_prefix_sure hkept hy hplus)).trans (begins_with_sure hread hf)
  rw [basis_eq hkept hy hafter]
  have hwithin : Path.isWithin path d δ false =
      Path.isWithinText δ path.toList (before.map Literal.char) := Path.isWithinText_congr hdrop
  rw [hwithin]
  refine ⟨fun hsigns => ?_, fun hδ hsign => ?_⟩
  · have hall : visible (before ++ [y]) = before.map Literal.char ++ [δ] := by
      have hfilter : (before ++ [y]).filter (!·.isSign) = before ++ [y] :=
        List.filter_eq_self.mpr fun x hx => by simp [hsigns x hx]
      rw [visible, hfilter, List.map_append, List.map_singleton, hy]
    exact Path.isWithinText_of_prefix (hall ▸ hpath)
  · exact not_isWithinText_of_isSign hδ hy hsign hpath

theorem foundFirst_of_source {p : Regex} {source s : String} (hp : p.source = source)
    (h : ((alternatives {} source.toList).toOption.bind List.head?).any
      (·.1.found s.toList) = true) : FoundFirst p s := by
  rw [FoundFirst, hp]
  cases hread : alternatives {} source.toList with
  | error e => simp [hread, Except.toOption] at h
  | ok l =>
    cases l with
    | nil => simp [hread, Except.toOption] at h
    | cons first others => exact ⟨first, others, rfl, by simpa [hread, Except.toOption] using h⟩

/-- All settings of a service are found in its directory. -/
theorem settings_are_found_in_their_directory :
    ∃ p : Regex, p.source = "^/etc/ssh/+.*_config$" ∧
      guessParent p.source '/' = some "/etc/ssh" ∧ FoundFirst p "/etc/ssh/sshd_config" ∧
      losesDelimiter p.source '/' = false ∧
      Path.isWithin "/etc/ssh/sshd_config" "/etc/ssh" '/' false = true := by
  obtain ⟨p, hp⟩ := Regex.exists_source "^/etc/ssh/+.*_config$" (by decide +kernel)
  have hguess : guessParent p.source '/' = some "/etc/ssh" := by
    rw [hp]
    decide +kernel
  have hfound : FoundFirst p "/etc/ssh/sshd_config" := foundFirst_of_source hp (by decide +kernel)
  have hplus : losesDelimiter p.source '/' = false := by
    rw [hp]
    decide +kernel
  refine ⟨p, hp, hguess, hfound, hplus, (guess_holds_unless_sign hguess hfound hplus).1 ?_⟩
  rw [hp]
  decide +kernel

theorem found_of_source {p : Regex} {source s : String} (hp : p.source = source)
    (h : (Node.read {} source.toList).toOption.any (·.found s.toList) = true) :
    p.found s = true := by
  have hread := p.read_eq
  rw [hp] at hread
  simpa [hread, Except.toOption, Regex.found] using h

/--
**Three patterns that find a path outside of the directory guessed for them**: by another
alternative, where the start of the text is asked for twice, and where a plus is itself repeated.
-/
theorem paths_are_found_elsewhere :
    ∃ p₁ p₂ p₃ : Regex, p₁.source = "^/etc/.*|^/var/b" ∧ p₂.source = "^^/etc/x" ∧
      p₃.source = "^/etc/+*x" ∧
      (guessParent p₁.source '/' = some "/etc" ∧ p₁.found "/var/b" = true ∧
        Path.isWithin "/var/b" "/etc" '/' false = false) ∧
      (guessParent p₂.source '/' = some "^/etc" ∧ p₂.found "/etc/x" = true ∧
        Path.isWithin "/etc/x" "^/etc" '/' false = false) ∧
      (guessParent p₃.source '/' = some "/etc" ∧ p₃.found "/etcx" = true ∧
        Path.isWithin "/etcx" "/etc" '/' false = false) := by
  obtain ⟨p₁, h₁⟩ := Regex.exists_source "^/etc/.*|^/var/b" (by decide +kernel)
  obtain ⟨p₂, h₂⟩ := Regex.exists_source "^^/etc/x" (by decide +kernel)
  obtain ⟨p₃, h₃⟩ := Regex.exists_source "^/etc/+*x" (by decide +kernel)
  refine ⟨p₁, p₂, p₃, h₁, h₂, h₃, ⟨?_, found_of_source h₁ (by decide +kernel), by decide⟩,
    ⟨?_, found_of_source h₂ (by decide +kernel), by decide⟩,
    ⟨?_, found_of_source h₃ (by decide +kernel), by decide⟩⟩
  · rw [h₁]
    decide +kernel
  · rw [h₂]
    decide +kernel
  · rw [h₃]
    decide +kernel

end RemoteSearch.Query

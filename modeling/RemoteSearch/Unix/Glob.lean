/-!
# Names in globs

What globs match, and how a name is turned into a glob that matches this name only: by a backslash
before each character that means something in a glob.

## Termination

`items` ends because each item takes characters of the glob, `matchItems` because each step takes
an item or a character of the text.
-/

namespace RemoteSearch.Unix.Glob

/-- Characters that mean something in a glob. -/
def isSpecial (c : Char) : Bool := ['*', '?', '[', ']', '\\'].contains c

/-- The glob for a name. -/
def escapeText (l : List Char) : List Char :=
  l.flatMap fun c => if isSpecial c then ['\\', c] else [c]

/-- The glob for a name. -/
def escape (name : String) : String := String.ofList (escapeText name.toList)

/-! ## Matching -/

/-- One item of a glob. -/
inductive Item where
  | literal (c : Char)
  | anyOne
  | anyRun
  | oneOf (ranges : List (Char × Char)) (negated : Bool)
  deriving Repr, DecidableEq, Inhabited

/-- The ranges in brackets up to the closing one, and what follows; a first one closes nothing. -/
def readRanges (first : Bool) : List Char → Option (List (Char × Char) × List Char)
  | [] => none
  | ']' :: r =>
    if first then
      (readRanges false r).map fun p => ((']', ']') :: p.1, p.2)
    else some ([], r)
  | a :: '-' :: b :: r =>
    if b = ']' then
      (readRanges false ('-' :: b :: r)).map fun p => ((a, a) :: p.1, p.2)
    else (readRanges false r).map fun p => ((a, b) :: p.1, p.2)
  | a :: r => (readRanges false r).map fun p => ((a, a) :: p.1, p.2)

/-- What is in brackets takes characters from the text. -/
theorem length_lt_of_readRanges {first : Bool} {l : List Char} {p : List (Char × Char) × List Char}
    (h : readRanges first l = some p) : p.2.length < l.length := by
  fun_induction readRanges first l generalizing p with
  | case1 => simp at h
  | case2 r ih =>
    obtain ⟨q, hq, rfl⟩ := Option.map_eq_some_iff.1 h
    have := ih hq
    simp only [List.length_cons]
    omega
  | case3 first r hf =>
    simp only [Option.some.injEq] at h
    subst h
    simp
  | case4 first a r _ ih =>
    obtain ⟨q, hq, rfl⟩ := Option.map_eq_some_iff.1 h
    have := ih hq
    simp only [List.length_cons] at this ⊢
    omega
  | case5 first a b r _ _ ih =>
    obtain ⟨q, hq, rfl⟩ := Option.map_eq_some_iff.1 h
    have := ih hq
    simp only [List.length_cons] at this ⊢
    omega
  | case6 first a r _ _ ih =>
    obtain ⟨q, hq, rfl⟩ := Option.map_eq_some_iff.1 h
    have := ih hq
    simp only [List.length_cons] at this ⊢
    omega

/-- The ranges after an opening bracket, and whether they are negated. -/
def readBrackets (l : List Char) : Option ((List (Char × Char) × Bool) × List Char) :=
  match l with
  | '!' :: r => (readRanges true r).map fun p => ((p.1, true), p.2)
  | '^' :: r => (readRanges true r).map fun p => ((p.1, true), p.2)
  | l => (readRanges true l).map fun p => ((p.1, false), p.2)

theorem length_lt_of_readBrackets {l : List Char} {p : (List (Char × Char) × Bool) × List Char}
    (h : readBrackets l = some p) : p.2.length < l.length := by
  unfold readBrackets at h
  split at h <;>
  · obtain ⟨q, hq, rfl⟩ := Option.map_eq_some_iff.1 h
    have := length_lt_of_readRanges hq
    simp only [List.length_cons] at this ⊢
    omega

/-- The items of a glob; a bracket that is never closed stands for itself. -/
def items (l : List Char) : List Item :=
  match l with
  | [] => []
  | '*' :: r => .anyRun :: items r
  | '?' :: r => .anyOne :: items r
  | '\\' :: c :: r => .literal c :: items r
  | '[' :: r =>
    match h : readBrackets r with
    | some (p, rest) =>
      have : rest.length < r.length := length_lt_of_readBrackets h
      .oneOf p.1 p.2 :: items rest
    | none => .literal '[' :: items r
  | c :: r => .literal c :: items r
termination_by l.length

/-- Whether an item takes a character. -/
def Item.takes : Item → Char → Bool
  | literal d, c => c == d
  | anyOne, _ => true
  | anyRun, _ => true
  | oneOf ranges negated, c => ranges.any (fun r => r.1 ≤ c && c ≤ r.2) != negated

/-- Whether items match the whole of a text. -/
def matchItems : List Item → List Char → Bool
  | [], [] => true
  | [], _ :: _ => false
  | .anyRun :: is, [] => matchItems is []
  | .anyRun :: is, c :: r => matchItems is (c :: r) || matchItems (.anyRun :: is) r
  | _ :: _, [] => false
  | i :: is, c :: r => i.takes c && matchItems is r
termination_by is l => (is.length, l.length)

/-- Whether a glob matches the whole of a text. -/
def isMatch (glob text : List Char) : Bool := matchItems (items glob) text

end RemoteSearch.Unix.Glob

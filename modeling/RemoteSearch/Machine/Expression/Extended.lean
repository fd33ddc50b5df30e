import RemoteSearch.Pattern.Syntax
import RemoteSearch.Text.Numeral

/-!
# Extended regular expressions

The expressions that `grep -E` reads, over bytes. Besides the POSIX constructs there are the usual
escapes for words and blanks; any other backslash makes the next character a plain one. An operator
with nothing before it repeats the empty text, alternatives may be empty, a brace that begins no
count and a parenthesis that closes nothing are plain characters. In brackets a backslash is a
member like any other.

## Termination

The text is read by a machine that takes characters in every round. What stands in brackets is read
element by element, and each element takes characters too.
-/

namespace RemoteSearch.Machine.Extended

open Pattern Text

/-! ## Brackets -/

/-- An element of a bracket expression. -/
inductive Element where
  /-- A character as it is. -/
  | plain (c : Char)
  /-- A character by its name. -/
  | named (c : Char)
  /-- A class that may stand for many characters, and has no place in a range. -/
  | many (s : CharClass)
  deriving Repr, DecidableEq, Inhabited

/-- The text up to a sign before a closing bracket, and what follows. -/
def readSymbol (sign : Char) : List Char → Option (List Char × List Char)
  | [] => none
  | c :: r =>
    if c = sign ∧ r.head? = some ']' then some ([], r.tail)
    else (readSymbol sign r).map fun p => (c :: p.1, p.2)

/-- What is read in brackets takes characters. -/
theorem length_lt_of_readSymbol {sign : Char} {l : List Char} {p : List Char × List Char}
    (h : readSymbol sign l = some p) : p.2.length < l.length := by
  fun_induction readSymbol sign l generalizing p with
  | case1 => simp at h
  | case2 c r _ =>
    simp only [Option.some.injEq] at h
    subst h
    simp only [List.length_tail, List.length_cons]
    omega
  | case3 c r _ ih =>
    obtain ⟨q, hq, rfl⟩ := Option.map_eq_some_iff.1 h
    have := ih hq
    simp only [List.length_cons]
    omega

/-- The classes that have names in brackets. -/
def namedClass? (name : String) : Option CharClass :=
  if name == "ascii" || name == "word" then none else CharClass.ofAsciiName? name

/-- The element that a name in brackets stands for, given the sign around it. -/
def namedElement? (sign : Char) (name : List Char) : Option Element :=
  match sign, name with
  | ':', n => (namedClass? (String.ofList n)).map .many
  | '=', [c] => some (.many (.single c))
  | '.', [c] => some (.named c)
  | _, _ => none

/-- Signs that begin a name after an opening bracket. -/
def beginsName (l : List Char) : Bool := l.head?.any fun c => c == ':' || c == '=' || c == '.'

/-- The elements up to the closing bracket, and what follows it. -/
def readElements (l : List Char) : Option (List Element × List Char) :=
  match l with
  | [] => none
  | ']' :: r => some ([], r)
  | c :: r =>
    if c = '[' ∧ beginsName r then
      match r with
      | sign :: r' =>
        match h : readSymbol sign r' with
        | some (name, rest) =>
          have := length_lt_of_readSymbol h
          do
            let e ← namedElement? sign name
            let (es, rest) ← readElements rest
            some (e :: es, rest)
        | none => none
      | [] => none
    else (readElements r).map fun p => (.plain c :: p.1, p.2)
termination_by l.length
decreasing_by
  all_goals
    simp only [List.length_cons] at *
    omega

/-- The character of an element that may begin or end a range. -/
def Element.char? : Element → Option Char
  | plain c => some c
  | named c => some c
  | many _ => none

/-- The set of an element by itself. -/
def Element.set : Element → CharClass
  | plain c => .single c
  | named c => .single c
  | many s => s

/--
The sets that elements make. A hyphen between two characters makes a range; it is a member itself
where it comes first or last, and is not allowed elsewhere.
-/
def sets? (first : Bool) : List Element → Option (List CharClass)
  | [] => some []
  | e :: r =>
    if e = .plain '-' ∧ !first ∧ !r.isEmpty then none
    else
      match e.char?, r with
      | some a, .plain '-' :: e' :: r' => do
        let b ← e'.char?
        if a ≤ b then (sets? false r').map (.range a b :: ·) else none
      | _, r => (sets? false r).map (e.set :: ·)

/-- Whether elements look like the name of a class without the brackets around it. -/
def isBareName (l : List Element) : Bool :=
  l.head? == some (.plain ':') && l.getLast? == some (.plain ':') && l.any (· != .plain ':') &&
    l.all fun e => e matches .plain _

/-- Whether elements have a range among them. -/
def hasRange (l : List Element) : Bool := (l.dropLast.drop 1).contains (.plain '-')

/-- The class in brackets, read after the opening one. -/
def readBracket (l : List Char) : Option (CharClass × List Char) := do
  let (negated, l) := match l with
    | '^' :: r => (true, r)
    | l => (false, l)
  let (elements, rest) ← match l with
    | ']' :: r => (readElements r).map fun p => (.plain ']' :: p.1, p.2)
    | l => readElements l
  if isBareName elements && !hasRange elements then none
  else do
    let set := (← sets? true elements).foldr .union .none
    some (if negated then .compl set else set, rest)

/-! ## The machine -/

/-- What has been read: the alternative in hand, the ones before it, and the groups around. -/
structure State where
  /-- The items of the alternative in hand, the last first. -/
  items : List Node := []
  /-- The alternatives before it, the last first. -/
  alts : List Node := []
  /-- The items and alternatives of the groups around, the innermost first. -/
  outer : List (List Node × List Node) := []
  deriving Inhabited

namespace State

/-- Adds an item. -/
def push (s : State) (a : Node) : State := { s with items := a :: s.items }

/-- Everything in the innermost group as one expression. -/
def inner (s : State) : Node := .ofAlts ((.ofSeq s.items.reverse :: s.alts).reverse)

/-- Repeats the last item, or the empty text. -/
def repeatLast (s : State) (min : Nat) (max : Option Nat) : State :=
  match s.items with
  | a :: r => { s with items := .rep a true min max :: r }
  | [] => { s with items := [.rep .empty true min max] }

/-- Begins an alternative. -/
def nextAlternative (s : State) : State :=
  { s with items := [], alts := .ofSeq s.items.reverse :: s.alts }

/-- Opens a group. -/
def openGroup (s : State) : State :=
  { items := [], alts := [], outer := (s.items, s.alts) :: s.outer }

/-- Closes a group; a parenthesis that closes nothing stands for itself. -/
def closeGroup (s : State) : State :=
  match s.outer with
  | (items, alts) :: outer => { items := s.inner :: items, alts, outer }
  | [] => s.push (.one (.single ')'))

end State

/-- The greatest count of a repetition. -/
def maxCount : Nat := 32767

/-- The counts in braces, if there are some, read after the opening one. -/
def readCounts (l : List Char) : Option (Nat × Option Nat × List Char) :=
  let (low, rest) := l.span Char.isDigit
  match natOfDigits low, rest with
  | some n, '\x7d' :: r => some (n, some n, r)
  | low?, ',' :: r =>
    let (high, rest) := r.span Char.isDigit
    match natOfDigits high, rest with
    | some m, '\x7d' :: r => some (low?.getD 0, some m, r)
    | none, '\x7d' :: r => some (low?.getD 0, none, r)
    | _, _ => none
  | _, _ => none

/-- What a character after a backslash stands for. -/
def escaped (c : Char) : Node :=
  match c with
  | '\x60' => .anchor .textStart
  | '\'' => .anchor .textEnd
  | '<' => .anchor (.wordStart true)
  | '>' => .anchor (.wordEnd true)
  | 'b' => .anchor (.wordBoundary true)
  | 'B' => .anchor (.notWordBoundary true)
  | 'w' => .one .asciiWord
  | 'W' => .one (.compl .asciiWord)
  | 's' => .one .asciiBlank
  | 'S' => .one (.compl .asciiBlank)
  | c => .one (.single c)

/-- One round of the machine, on a character and the text after it. -/
def step (s : State) (c : Char) (r : List Char) : Option (State × List Char) :=
  match c with
  | '\\' =>
    match r with
    | [] => none
    -- references to groups are not part of the language
    | c :: r => if '1' ≤ c ∧ c ≤ '9' then none else some (s.push (escaped c), r)
  | '^' => some (s.push (.anchor .textStart), r)
  | '$' => some (s.push (.anchor .textEnd), r)
  | '?' => some (s.repeatLast 0 (some 1), r)
  | '*' => some (s.repeatLast 0 none, r)
  | '+' => some (s.repeatLast 1 none, r)
  | '\x7b' =>
    match readCounts r with
    | none => some (s.push (.one (.single c)), r)
    | some (min, max, rest) =>
      if max.all (min ≤ ·) ∧ (max.getD min) ≤ maxCount then some (s.repeatLast min max, rest)
      else none
  | '|' => some (s.nextAlternative, r)
  | '(' => some (s.openGroup, r)
  | ')' => some (s.closeGroup, r)
  | '.' => some (s.push (.one .all), r)
  | '[' => (readBracket r).map fun p => (s.push (.one p.1), p.2)
  | c => some (s.push (.one (.single c)), r)

/-- All rounds of the machine. -/
def loop (s : State) (l : List Char) : Option State :=
  match l with
  | [] => some s
  | c :: r => do
    let (s, rest) ← step s c r
    if rest.length < r.length + 1 then loop s rest else none
termination_by l.length

/-- The expression that a text is, if it is one. -/
def read? (l : List Char) : Option Node := do
  let s ← loop {} l
  if s.outer.isEmpty then some s.inner else none

end RemoteSearch.Machine.Extended

import RemoteSearch.Machine.Expression.Extended

/-!
# Expressions in awk programs

The expressions that `awk` reads, over bytes. There are no counted repetitions: a brace is a plain
character. A backslash makes the usual control characters, characters by their number, and else the
next character plain, also in brackets. A dollar right after a text, a class or a dot belongs to it,
so that an operator after both of them takes both.

The operands and operators are put together by precedence, one stack for each. Putting one after
another is an operator of its own. It is let pass when it finds one operand only, so what is wrong
inside parentheses can reach out for the operand before them.

## Termination

The text is read by a machine that takes characters in every round. What stands in brackets is read
piece by piece, and each piece takes characters too. Operators come off their stack one by one.
-/

namespace RemoteSearch.Machine.AwkExpression

open Pattern

/-! ## Escapes -/

/-- The characters that letters stand for after a backslash. -/
def controls : List (Char × Char) :=
  [('a', '\x07'), ('b', '\x08'), ('f', '\x0C'), ('n', '\n'), ('r', '\r'), ('t', '\t'),
    ('v', '\x0B')]

/-- The number written by digits in a base. -/
def numberIn (base : Nat) (l : List Char) : Nat :=
  l.foldl (fun n c =>
    let d := if c.isDigit then c.toNat - 48 else if c.isLower then c.toNat - 87 else c.toNat - 55
    base * n + d) 0

/-- Whether a character is an octal digit. -/
def isOctalDigit (c : Char) : Bool := '0' ≤ c && c ≤ '7'

/-- Whether a character is a hexadecimal digit. -/
def isHexDigit (c : Char) : Bool :=
  c.isDigit || ('a' ≤ c && c ≤ 'f') || ('A' ≤ c && c ≤ 'F')

/--
A character by its number: up to three octal digits, or up to two hexadecimal ones after an `x`.
-/
def readNumbered? (l : List Char) : Option (Char × List Char) :=
  let octal := (l.takeWhile isOctalDigit).take 3
  if !octal.isEmpty then some (Char.ofNat (numberIn 8 octal % 256), l.drop octal.length)
  else
    match l with
    | 'x' :: r =>
      let hex := (r.takeWhile isHexDigit).take 2
      if hex.isEmpty then none else some (Char.ofNat (numberIn 16 hex), r.drop hex.length)
    | _ => none

/-- What stands after a backslash as a character, and the text after it. -/
def readEscape (l : List Char) : Char × List Char :=
  match readNumbered? l, l with
  | some p, _ => p
  | none, [] => ('\\', [])
  | none, c :: r => ((controls.lookup c).getD c, r)

theorem length_le_of_readNumbered? {l : List Char} {p : Char × List Char}
    (h : readNumbered? l = some p) : p.2.length ≤ l.length := by
  unfold readNumbered? at h
  simp only at h
  split at h
  · simp only [Option.some.injEq] at h
    subst h
    simp
  · split at h
    · split at h
      · simp at h
      · simp only [Option.some.injEq] at h
        subst h
        simp only [List.length_drop, List.length_cons]
        omega
    · simp at h

/-- An escape takes no characters that are not there. -/
theorem length_readEscape_le (l : List Char) : (readEscape l).2.length ≤ l.length := by
  unfold readEscape
  split
  · rename_i p h
    exact length_le_of_readNumbered? h
  · simp
  · simp

/-! ## Brackets -/

/-- The class whose name in brackets and colons a text begins with, and the text after it. -/
def readNamed? (l : List Char) : Option (CharClass × List Char) :=
  let name := l.takeWhile (· != ':')
  match l.dropWhile (· != ':') with
  | ':' :: ']' :: r => (Extended.namedClass? (String.ofList name)).map (·, r)
  | _ => none

theorem length_lt_of_readNamed? {l : List Char} {p : CharClass × List Char}
    (h : readNamed? l = some p) : p.2.length < l.length := by
  unfold readNamed? at h
  simp only at h
  split at h
  · rename_i r hr
    obtain ⟨q, _, rfl⟩ := Option.map_eq_some_iff.1 h
    have := (List.dropWhile_suffix (fun c => c != ':') (l := l)).length_le
    rw [hr] at this
    simp only [List.length_cons] at this
    simp only
    omega
  · simp at h

/--
The text in brackets up to the closing one, and what follows. A backslash covers the next character,
and a colon after an opening bracket has to begin the name of a class.
-/
def splitBracket (l : List Char) : Option (List Char × List Char) :=
  match l with
  | [] => none
  | ']' :: r => some ([], r)
  | '\\' :: c :: r => (splitBracket r).map fun p => ('\\' :: c :: p.1, p.2)
  | '[' :: ':' :: r =>
    match h : readNamed? r with
    | some (_, rest) =>
      have := length_lt_of_readNamed? h
      (splitBracket rest).map fun p => ('[' :: ':' :: r.take (r.length - rest.length) ++ p.1, p.2)
    | none => none
  | c :: r => (splitBracket r).map fun p => (c :: p.1, p.2)
termination_by l.length
decreasing_by
  all_goals
    simp only [List.length_cons] at *
    omega

/-- A character, or the one that an escape stands for, and the text after it. -/
def readChar (c : Char) (r : List Char) : Char × List Char :=
  if c = '\\' then readEscape r else (c, r)

theorem length_readChar_le (c : Char) (r : List Char) : (readChar c r).2.length ≤ r.length := by
  unfold readChar
  split
  · exact length_readEscape_le r
  · exact Nat.le_refl _

/--
The sets of what stands in brackets, where `last` is the character before it if a range may begin
there. A hyphen makes a range of the character before it and the one after it if they are in order,
and stands for itself otherwise.
-/
def sets (last : Option Char) (l : List Char) : List CharClass :=
  match l with
  | [] => []
  | '-' :: r =>
    match last, r with
    | some a, c :: r' =>
      have := length_readChar_le c r'
      if a ≤ (readChar c r').1 then .range a (readChar c r').1 :: sets none (readChar c r').2
      else .single '-' :: sets (some '-') (c :: r')
    | _, r => .single '-' :: sets (some '-') r
  | '[' :: ':' :: r =>
    match h : readNamed? r with
    | some (s, rest) =>
      have := length_lt_of_readNamed? h
      s :: sets last rest
    | none => .single '[' :: sets (some '[') (':' :: r)
  | c :: r =>
    have := length_readChar_le c r
    .single (readChar c r).1 :: sets (some (readChar c r).1) (readChar c r).2
termination_by l.length
decreasing_by
  all_goals
    simp only [List.length_cons] at *
    omega

/-- The class in brackets, read after the opening one. -/
def readBracket (l : List Char) : Option (CharClass × List Char) := do
  let (negated, l) := match l with
    | '^' :: r => (true, r)
    | l => (false, l)
  let (inner, rest) ← match l with
    | ']' :: r => (splitBracket r).map fun p => (']' :: p.1, p.2)
    | l => splitBracket l
  let set := (sets none inner).foldr .union .none
  some (if negated then .compl set else set, rest)

/-! ## Operands -/

/-- Characters that mean something outside of brackets. -/
def isSpecial (c : Char) : Bool := "|*+?()[.^$\\".toList.contains c

/-- Whether a text goes on with an operator that repeats. -/
def repeatsNext (l : List Char) : Bool := l.head?.any fun c => c == '*' || c == '+' || c == '?'

/--
A run of plain characters and escapes. If an operator that repeats comes after it, its last
character is left to that operator.
-/
def readRun (first : Bool) (l : List Char) : List Char × List Char :=
  match l with
  | [] => ([], [])
  | c :: r =>
    if c = '\\' then
      have := length_readEscape_le r
      if !first && repeatsNext (readEscape r).2 then ([], c :: r)
      else
        let p := readRun false (readEscape r).2
        ((readEscape r).1 :: p.1, p.2)
    else if isSpecial c ∨ (!first && repeatsNext r) then ([], c :: r)
    else
      let p := readRun false r
      (c :: p.1, p.2)
termination_by l.length

/-- What was read last. -/
inductive Previous where
  | nothing
  /-- An operator after which an operand begins. -/
  | awaiting
  /-- A repetition or a closing parenthesis. -/
  | closed
  | start
  | finish
  | operand
  deriving Repr, DecidableEq, Inhabited

/-- An operand with the dollar that may come right after it. -/
def withDollar (a : Node) : List Char → Node × List Char
  | '$' :: r => (.seq a (.anchor .textEnd), r)
  | l => (a, l)

/-- Any text. -/
def anyText : Node := .rep (.one .all) true 0 none

/-- Reads an operand, and what it was. A closing parenthesis comes here if it closes nothing. -/
def readOperand (l : List Char) : Option (Node × Previous × List Char) :=
  match l with
  | [] => none
  | '.' :: '*' :: r => some (anyText, .operand, r)
  | '.' :: r =>
    let (a, r) := withDollar (.one .all) r
    some (a, .operand, r)
  | '[' :: r => do
    let (s, r) ← readBracket r
    let (a, r) := withDollar (.one s) r
    some (a, .operand, r)
  | '^' :: r =>
    let (a, r) := withDollar (.anchor .textStart) r
    some (a, .start, r)
  | '$' :: r => some (.anchor .textEnd, .finish, r)
  | ')' :: r =>
    let (a, r) := withDollar (.one (.single ')')) r
    some (a, .operand, r)
  | l =>
    let (text, r) := readRun true l
    let (a, r) := withDollar (.ofSeq (text.map fun c => .one (.single c))) r
    some (a, .operand, r)

/-! ## Operators -/

/-- An operator or parenthesis. -/
inductive Operator where
  | either
  | after
  | anyTimes
  | again
  | maybe
  | opening
  | closing
  deriving Repr, DecidableEq, Inhabited

/-- How an operator on the stack stands to the one that comes. -/
inductive Relation where
  /-- It waits. -/
  | waits
  /-- It is the counterpart. -/
  | matching
  /-- It is applied first. -/
  | first
  /-- They cannot stand side by side. -/
  | wrong
  deriving Repr, DecidableEq, Inhabited

/-- Whether an operator repeats what comes before it. -/
def Operator.repeats : Operator → Bool
  | anyTimes | again | maybe => true
  | _ => false

/-- How an operator, or the bottom of the stack, stands to the next one, or the end of the text. -/
def relation (top next : Option Operator) : Relation :=
  match top, next with
  | none, some .closing => .wrong
  | none, _ => .waits
  | some .opening, none => .wrong
  | some .opening, some .closing => .matching
  | some .opening, some _ => .waits
  | some _, none => .first
  | some .either, some o => if o = .either ∨ o = .closing then .first else .waits
  | some .after, some o =>
    if o = .either ∨ o = .after ∨ o = .closing then .first else .waits
  | some _, some o => if o = .opening then .wrong else .first

/-- The piles of operands and of operators, the latter with how each stands to the one above. -/
structure Piles where
  operands : List Node := []
  operators : List (Operator × Relation) := []
  deriving Inhabited

namespace Piles

/-- Applies an operator to the operands. -/
def applyOne (o : Operator) (l : List Node) : Option (List Node) :=
  match o, l with
  | _, [] => none
  | .either, b :: a :: r => some (.alt a b :: r)
  | .either, [_] => none
  | .after, b :: a :: r => some (.seq a b :: r)
  | .after, [a] => some [a]
  | .anyTimes, a :: r => some (.rep a true 0 none :: r)
  | .again, a :: r => some (.rep a true 1 none :: r)
  | .maybe, a :: r => some (.rep a true 0 (some 1) :: r)
  | .opening, l => some l
  | .closing, l => some l

/-- Applies the operators from the top of the stack down to one that waits. -/
def applyTop (operands : List Node) : List (Operator × Relation) → Option Piles
  | [] => some ⟨operands, []⟩
  | (o, _) :: r => do
    let operands ← applyOne o operands
    match r with
    | (o', .matching) :: r' => applyTop operands ((o', .matching) :: r')
    | r => some ⟨operands, r⟩

/-- Puts an operator on the stack once those that come first have been applied. -/
def takeOperator (n : Nat) (s : Piles) (next : Option Operator) : Option Piles :=
  let top := s.operators.head?.map (·.1)
  match n, relation top next with
  | _, .wrong => none
  | 0, _ => none
  | n + 1, .first => do takeOperator n (← applyTop s.operands s.operators) next
  | _ + 1, rel =>
    match next with
    | none => some s
    | some o =>
      let below := match s.operators with
        | (t, _) :: r => (t, rel) :: r
        | [] => []
      some { s with operators := (o, .waits) :: below }

end Piles

/-- The operator that a character is. -/
def operator? : Char → Option Operator
  | '|' => some .either
  | '*' => some .anyTimes
  | '+' => some .again
  | '?' => some .maybe
  | '(' => some .opening
  | ')' => some .closing
  | _ => none

/-- What a round of the machine leaves. -/
structure State where
  piles : Piles := {}
  previous : Previous := .nothing
  /-- How many parentheses are open. -/
  depth : Nat := 0
  deriving Inhabited

namespace State

/-- Takes an operator. -/
def take (s : State) (o : Operator) : Option State := do
  let piles ← s.piles.takeOperator (s.piles.operators.length + 1) (some o)
  let previous := match o with
    | .either | .after | .opening => .awaiting
    | _ => .closed
  let depth := match o with
    | .opening => s.depth + 1
    | .closing => s.depth - 1
    | _ => s.depth
  some { piles, previous, depth }

/-- Takes an operand. -/
def push (s : State) (a : Node) (previous : Previous) : State :=
  { s with piles := { s.piles with operands := a :: s.piles.operands }, previous }

/-- Puts what comes next after the operand before it, if there is one. -/
def follow (s : State) : Option State :=
  if s.previous = .nothing ∨ s.previous = .awaiting then some s else s.take .after

end State

/--
Reads an operand; a dot that is to be taken again and again makes two, the second of them free.
-/
def readAfter (s : State) (c : Char) (r : List Char) : Option (State × List Char) := do
  match c, r with
  | '.', '+' :: rest =>
    let s ← (s.push (.one .all) .operand).follow
    some (s.push anyText .operand, rest)
  | c, r =>
    let (a, previous, rest) ← readOperand (c :: r)
    some (s.push a previous, rest)

/-- One round of the machine, on a character and the text after it. -/
def step (s : State) (c : Char) (r : List Char) : Option (State × List Char) := do
  match operator? c with
  | some .opening =>
    -- an opening parenthesis right after a dollar does not follow it
    let s ← if s.previous = .finish then some s else s.follow
    some (← s.take .opening, r)
  | some o =>
    if o = .closing ∧ s.depth = 0 then readAfter (← s.follow) c r
    else if s.previous = .start ∧ (o = .anyTimes ∨ o = .again) then none
    else some (← s.take o, r)
  | none => readAfter (← s.follow) c r

/-- All rounds of the machine. -/
def loop (s : State) (l : List Char) : Option State :=
  match l with
  | [] => some s
  | c :: r => do
    let (s, rest) ← step s c r
    if rest.length < r.length + 1 then loop s rest else none
termination_by l.length

/-- The expression that a text is, if it is one. -/
def read? (l : List Char) : Option Node := do
  if l.isEmpty then some .empty
  else
    let s ← loop {} l
    let piles ← s.piles.takeOperator (s.piles.operators.length + 1) none
    match piles.operands with
    | [a] => some a
    | _ => none

end RemoteSearch.Machine.AwkExpression

import RemoteSearch.Pattern.Property
import RemoteSearch.Pattern.Syntax
import RemoteSearch.Text.Numeral

/-!
# Reading patterns

The concrete syntax of patterns: literals, classes with set operations, groups, inline flags,
counted repetition, anchors and the usual escapes. There are no back-references, and lookahead is
read only in the grammar that allows it. A text that is no pattern is rejected with a cause.

## Termination

The text is read from left to right by a machine whose state holds the groups that are open. Every
round hands on a rest of the text, and the loop goes on only while the rest gets shorter; so the
loops end without a bound given beforehand. The scanners inside one round recurse on the text.
-/

namespace RemoteSearch.Pattern

open Text

/-- Why a text is not a pattern. -/
inductive Reject where
  | backreference
  | lookaround
  | repetitionMissing
  | repetitionUnclosed
  | repetitionRange
  | numeral
  | escape
  | classUnclosed
  | classRange
  | classItem
  | groupUnclosed
  | groupUnopened
  | groupName
  | flag
  | property
  | notText
  | nesting
  | tooLarge
  deriving Repr, DecidableEq, Inhabited

/-- Which grammar is read. -/
structure Grammar where
  /-- Negative lookahead is part of the grammar. -/
  lookahead : Bool := false
  /-- Letters match in either case from the start. -/
  ignoreCase : Bool := false
  deriving Repr, DecidableEq, Inhabited

/-- The modes that inline flags switch. -/
structure Flags where
  ignoreCase : Bool := false
  multiLine : Bool := false
  dotAll : Bool := false
  unicode : Bool := true
  crlf : Bool := false
  verbose : Bool := false
  /-- Repetitions prefer fewer rounds unless marked. -/
  reluctant : Bool := false
  deriving Repr, DecidableEq, Inhabited

/-- How deep brackets, repetitions, groups and sequences may nest. -/
def nestLimit : Nat := 250

/-- Characters that mean something unless escaped. -/
def isMeta (c : Char) : Bool := "\\.+*?()|[]\x7b\x7d^$#&-~".toList.contains c

/-- A text as the pattern that matches just it. -/
def escapeText (l : List Char) : List Char :=
  l.flatMap fun c => if isMeta c then ['\\', c] else [c]

/-- A string as the source of the pattern that matches just it. -/
def escape (s : String) : String := String.ofList (escapeText s.toList)

namespace Parser

/-! ## Blanks and comments of the verbose mode -/

/-- The text after a comment, which ends with its line. -/
def skipComment : List Char → List Char
  | [] => []
  | '\n' :: r => r
  | _ :: r => skipComment r

theorem length_skipComment_le (l : List Char) : (skipComment l).length ≤ l.length := by
  fun_induction skipComment l with
  | case1 => simp
  | case2 => simp
  | case3 c r _ ih => simp only [List.length_cons]; omega

/-- The text after blanks and comments. -/
def skipBlanks : List Char → List Char
  | [] => []
  | c :: r =>
    if isBlank c then skipBlanks r
    else if c = '#' then
      have : (skipComment r).length < r.length + 1 :=
        Nat.lt_succ_of_le (length_skipComment_le r)
      skipBlanks (skipComment r)
    else c :: r
termination_by l => l.length

theorem length_skipBlanks_le (l : List Char) : (skipBlanks l).length ≤ l.length := by
  fun_induction skipBlanks l with
  | case1 => simp
  | case2 c r _ ih => simp only [List.length_cons]; omega
  | case3 r _ h ih => simp only [List.length_cons]; omega
  | case4 c r _ _ => simp

/-- The text after what the mode ignores. -/
def skip (f : Flags) (l : List Char) : List Char := if f.verbose then skipBlanks l else l

theorem length_skip_le (f : Flags) (l : List Char) : (skip f l).length ≤ l.length := by
  unfold skip
  split
  · exact length_skipBlanks_le l
  · exact Nat.le_refl _

/-! ## Numerals -/

/-- Digits with what the mode ignores between them, and the text after them. -/
def digitRun (f : Flags) (acc : List Char) : List Char → List Char × List Char
  | [] => (acc.reverse, [])
  | c :: r =>
    if '0' ≤ c ∧ c ≤ '9' then
      have : (skip f r).length < r.length + 1 := Nat.lt_succ_of_le (length_skip_le f r)
      digitRun f (c :: acc) (skip f r)
    else (acc.reverse, c :: r)
termination_by l => l.length

/-- A decimal number below 2³² with blanks around it, and the text after it. -/
def decimal (f : Flags) (l : List Char) : Except Reject (Nat × List Char) :=
  let (digits, rest) := digitRun f [] (l.dropWhile isBlank)
  match natOfDigits digits with
  | some n =>
    if n < UInt32.size then .ok (n, skip f (rest.dropWhile isBlank)) else .error .numeral
  | none => .error .numeral

/-- The bounds of a counted repetition, read after its opening brace. -/
def counts (f : Flags) (l : List Char) : Except Reject (Nat × Option Nat × List Char) := do
  let (min, rest) ← decimal f (skip f l)
  match rest with
  | '\x7d' :: r => .ok (min, some min, r)
  | ',' :: r =>
    match skip f r with
    | '\x7d' :: r => .ok (min, none, r)
    | r =>
      let (max, rest) ← decimal f r
      match rest with
      | '\x7d' :: r => if min ≤ max then .ok (min, some max, r) else .error .repetitionRange
      | _ => .error .repetitionUnclosed
  | _ => .error .repetitionUnclosed

/-! ## Escapes -/

/-- What an escape stands for. -/
inductive Escape where
  /-- A character. -/
  | char (c : Char)
  /-- A byte, given by two hexadecimal digits. -/
  | byte (n : Nat)
  /-- A class. -/
  | set (s : CharClass)
  /-- A condition on the place. -/
  | anchor (a : Anchor)
  deriving Repr, Inhabited

/-- The value of a hexadecimal digit. -/
def hexValue (c : Char) : Option Nat :=
  if '0' ≤ c ∧ c ≤ '9' then some (c.toNat - 48)
  else if 'a' ≤ c ∧ c ≤ 'f' then some (c.toNat - 87)
  else if 'A' ≤ c ∧ c ≤ 'F' then some (c.toNat - 55)
  else none

/-- The number written by hexadecimal digits. -/
def hexNumber (l : List Char) : Option Nat :=
  l.foldl (fun acc c => acc.bind fun n => (hexValue c).map (16 * n + ·)) (some 0)

/-- The character with a code point, if it is one. -/
def scalar? (n : Nat) : Option Char := if n.isValidChar then some (Char.ofNat n) else none

/-- The next `n` characters, what the mode ignores left out between them. -/
def takeSkipping (f : Flags) : Nat → List Char → Option (List Char × List Char)
  | 0, l => some ([], l)
  | _ + 1, [] => none
  | n + 1, c :: r => (takeSkipping f n (skip f r)).map fun (a, b) => (c :: a, b)

/-- The characters up to a closing brace, what the mode ignores left out, and the text after. -/
def takeBraced (f : Flags) (acc : List Char) (l : List Char) : Option (List Char × List Char) :=
  match skip f l with
  | [] => none
  | '\x7d' :: r => some (acc.reverse, r)
  | c :: r => if r.length < l.length then takeBraced f (c :: acc) r else none
termination_by l.length

/-- A code point in hexadecimal after `\x`, `\u` or `\U`. -/
def hexEscape (f : Flags) (kind : Char) (l : List Char) : Except Reject (Escape × List Char) := do
  let digits := if kind = 'x' then 2 else if kind = 'u' then 4 else 8
  let (text, rest, isByte) ← match skip f l with
    | '\x7b' :: r =>
      match takeBraced f [] r with
      | some ([], _) => throw .escape
      | some (text, rest) => pure (text, skip f rest, false)
      | none => throw .escape
    | r =>
      match takeSkipping f digits r with
      | some (text, rest) => pure (text, rest, kind == 'x' && !f.unicode)
      | none => throw .escape
  match (hexNumber text).bind scalar? with
  | none => throw .escape
  | some c => pure (if isByte then .byte c.toNat else .char c, rest)

/-- The class with the case variants of its members, if the mode asks for them. -/
def foldedBy (f : Flags) (s : CharClass) : CharClass :=
  if ¬f.ignoreCase then s else if f.unicode then .folded s else .foldedAscii s

/-- A class that may be matched: outside Unicode one of bytes that are characters by themselves. -/
def matchable (f : Flags) (s : CharClass) : Except Reject CharClass :=
  if f.unicode ∨ s.ranges.isAscii then .ok s else .error .notText

/-- The complement of a class, which outside Unicode is one among the 256 bytes. -/
def complement (f : Flags) (s : CharClass) : CharClass :=
  if f.unicode then .compl s else .diff (.range '\x00' '\u00FF') s

/-- A class given by a property, read after `\p` or `\P`. -/
def propertyEscape (f : Flags) (negated : Bool) (l : List Char) :
    Except Reject (Escape × List Char) := do
  let (name, rest) ← match skip f l with
    | '\x7b' :: r =>
      match takeBraced f [] r with
      | some x => pure x
      | none => throw .escape
    | '\\' :: _ => throw .property
    | c :: r => pure ([c], skip f r)
    | [] => throw .escape
  if ¬f.unicode then throw .property
  match Property.class? name with
  | none => throw .property
  | some s => pure (.set (if negated then .compl (foldedBy f s) else foldedBy f s), rest)

/-- The name in braces after a word boundary, if what follows can be one. -/
def boundaryName (f : Flags) (l : List Char) : Except Reject (Option (String × List Char)) :=
  let valid := fun (c : Char) => c.isAlpha || c == '-'
  match l with
  | '\x7b' :: r =>
    match skip f r with
    | [] => .error .escape
    | c :: _ =>
      if ¬valid c then .ok none
      else
        match takeBraced f [] r with
        | some (name, rest) =>
          if name.all valid then .ok (some (String.ofList name, rest)) else .error .escape
        | none => .error .escape
  | _ => .ok none

/-- A class by its Unicode or its ASCII meaning, or its complement. -/
def classOf (f : Flags) (negated : Bool) (wide ascii : CharClass) : Except Reject Escape :=
  let s := if f.unicode then wide else ascii
  if negated then (matchable f (complement f s)).map .set else .ok (.set s)

/-- An escape, read after its backslash. -/
def escapeSequence (f : Flags) : List Char → Except Reject (Escape × List Char)
  | [] => .error .escape
  | c :: r =>
    if '0' ≤ c ∧ c ≤ '9' then .error .backreference
    else if c = 'x' ∨ c = 'u' ∨ c = 'U' then hexEscape f c r
    else if c = 'p' ∨ c = 'P' then propertyEscape f (c = 'P') r
    else if isMeta c then .ok (.char c, r)
    else
      let ascii := !f.unicode
      match c with
      | 'd' => (classOf f false .decimal .asciiDigit).map (·, r)
      | 'D' => (classOf f true .decimal .asciiDigit).map (·, r)
      | 's' => (classOf f false .blank .asciiBlank).map (·, r)
      | 'S' => (classOf f true .blank .asciiBlank).map (·, r)
      | 'w' => (classOf f false .word .asciiWord).map (·, r)
      | 'W' => (classOf f true .word .asciiWord).map (·, r)
      | 'a' => .ok (.char '\x07', r)
      | 'f' => .ok (.char '\x0C', r)
      | 't' => .ok (.char '\t', r)
      | 'n' => .ok (.char '\n', r)
      | 'r' => .ok (.char '\r', r)
      | 'v' => .ok (.char '\x0B', r)
      | 'A' => .ok (.anchor .textStart, r)
      | 'z' => .ok (.anchor .textEnd, r)
      | 'B' => .ok (.anchor (.notWordBoundary ascii), r)
      | '<' => .ok (.anchor (.wordStart ascii), r)
      | '>' => .ok (.anchor (.wordEnd ascii), r)
      | 'b' => do
        match ← boundaryName f r with
        | none => .ok (.anchor (.wordBoundary ascii), r)
        | some ("start", r) => .ok (.anchor (.wordStart ascii), r)
        | some ("end", r) => .ok (.anchor (.wordEnd ascii), r)
        | some ("start-half", r) => .ok (.anchor (.wordStartHalf ascii), r)
        | some ("end-half", r) => .ok (.anchor (.wordEndHalf ascii), r)
        | some _ => .error .escape
      | _ => if c.toNat < 0x80 ∧ ¬c.isAlphanum then .ok (.char c, r) else .error .escape

/-! ## Bracketed classes -/

/-- A class with the depth to which it nests. -/
structure Nested where
  set : CharClass
  depth : Nat
  deriving Inhabited

/-- The operators between the operands of a class. -/
inductive SetOp where
  | inter
  | diff
  | symdiff
  deriving Repr, DecidableEq, Inhabited

/-- The class that an operator makes of its operands. -/
def SetOp.apply (f : Flags) (op : SetOp) (a b : CharClass) : CharClass :=
  let a := foldedBy f a
  let b := foldedBy f b
  match op with
  | inter => .inter a b
  | diff => .diff a b
  | symdiff => .union (.diff a b) (.diff b a)

/-- A bracket that is open: the classes before the operand in hand, and that operand's items. -/
structure OpenClass where
  negated : Bool
  left : Option (SetOp × Nested) := none
  items : List Nested := []
  deriving Inhabited

/-- The items of an operand as one class. -/
def unite (items : List Nested) : Nested :=
  let depth := (items.map (·.depth)).foldl max 0
  { set := items.foldr (fun i s => .union i.set s) .none
    depth := if items.length ≤ 1 then depth else depth + 1 }

/-- The operand in hand joined to what stands before it. -/
def OpenClass.closeOperand (f : Flags) (o : OpenClass) : Nested :=
  let right := unite o.items.reverse
  match o.left with
  | none => right
  | some (op, l) =>
    { set := op.apply f l.set right.set, depth := max l.depth right.depth + 1 }

/-- The class of a bracket that closes. -/
def OpenClass.close (f : Flags) (o : OpenClass) : Except Reject Nested :=
  let inner := o.closeOperand f
  let folded := foldedBy f inner.set
  (matchable f (if o.negated then complement f folded else folded)).map fun set =>
    { set, depth := inner.depth + 1 }

/-- A class of one character. -/
def lone (c : Char) : Nested := { set := .single c, depth := 0 }

/-- The hyphens at the start of a bracket as classes, and the text after them. -/
def leadingHyphens (f : Flags) (items : List Nested) (l : List Char) : List Nested × List Char :=
  match l with
  | '-' :: r =>
    have : (skip f r).length < r.length + 1 := Nat.lt_succ_of_le (length_skip_le f r)
    leadingHyphens f (lone '-' :: items) (skip f r)
  | _ => (items, l)
termination_by l.length

/-- The start of a bracket: negation, literal hyphens and a literal closing bracket. -/
def openClass (f : Flags) (l : List Char) : Except Reject (OpenClass × List Char) := do
  let (negated, l) := match skip f l with
    | '^' :: r => (true, skip f r)
    | l => (false, l)
  let (items, l) := leadingHyphens f [] l
  match items, l with
  | _, [] => throw .classUnclosed
  | [], ']' :: r =>
    match skip f r with
    | [] => throw .classUnclosed
    | rest => pure ({ negated, items := [lone ']'] }, rest)
  | items, l => pure ({ negated, items }, l)

/-- A named ASCII class such as `[:alpha:]`, read after its opening bracket, and whether negated. -/
def asciiClass? : List Char → Option (CharClass × Bool × List Char)
  | ':' :: r =>
    let (negated, r) := match r with
      | '^' :: r => (true, r)
      | _ => (false, r)
    match r.dropWhile (· != ':') with
    | ':' :: ']' :: rest =>
      (CharClass.ofAsciiName? (String.ofList (r.takeWhile (· != ':')))).map fun s =>
        (s, negated, rest)
    | _ => none
  | _ => none

/-- One item of a class: a character or an escape. -/
def classItem (f : Flags) : List Char → Except Reject (Escape × List Char)
  | [] => .error .classUnclosed
  | '\\' :: r => escapeSequence f r
  | c :: r => .ok (.char c, r)

/-- The character at an end of a range. -/
def rangeEnd (f : Flags) : Escape → Except Reject Char
  | .char c => if f.unicode ∨ c.toNat < 0x80 then .ok c else .error .notText
  | .byte n => .ok (Char.ofNat n)
  | _ => .error .classRange

/-- The class of a single item. -/
def itemClass (f : Flags) : Escape → Except Reject CharClass
  | .set s => .ok s
  | .anchor _ => .error .classItem
  | e => (rangeEnd f e).map .single

/-- An item or a range of a class. -/
def classRange (f : Flags) (l : List Char) : Except Reject (CharClass × List Char) := do
  let (a, rest) ← classItem f l
  match skip f rest with
  | [] => throw .classUnclosed
  | '-' :: r =>
    match skip f r with
    | [] => throw .classUnclosed
    -- the hyphen stands for itself, or begins a difference
    | ']' :: _ | '-' :: _ => pure (← itemClass f a, '-' :: r)
    | r' =>
      let (b, rest) ← classItem f r'
      let first ← rangeEnd f a
      let last ← rangeEnd f b
      if first ≤ last then pure (.range first last, rest) else throw .classRange
  | rest => pure (← itemClass f a, rest)

/-- One round of the class reader: the brackets that stay open, or the finished class. -/
def classStep (f : Flags) (o : OpenClass) (outer : List OpenClass) (l : List Char) :
    Except Reject ((OpenClass × List OpenClass ⊕ Nested) × List Char) := do
  let operator (op : SetOp) (r : List Char) :=
    pure (.inl ({ o with left := some (op, o.closeOperand f), items := [] }, outer), r)
  match l with
  | [] => throw .classUnclosed
  | '[' :: r =>
    match asciiClass? r with
    | some (s, negated, rest) =>
      let folded := foldedBy f s
      let set ← matchable f (if negated then complement f folded else folded)
      pure (.inl ({ o with items := { set, depth := 0 } :: o.items }, outer), rest)
    | none =>
      let (inner, rest) ← openClass f r
      pure (.inl (inner, o :: outer), rest)
  | ']' :: r =>
    let closed ← o.close f
    match outer with
    | [] => pure (.inr closed, r)
    | p :: ps => pure (.inl ({ p with items := closed :: p.items }, ps), r)
  | '&' :: '&' :: r => operator .inter r
  | '-' :: '-' :: r => operator .diff r
  | '~' :: '~' :: r => operator .symdiff r
  | l =>
    let (s, rest) ← classRange f l
    pure (.inl ({ o with items := { set := s, depth := 0 } :: o.items }, outer), rest)

/-- The rest of a class whose brackets are open. -/
def classLoop (f : Flags) (o : OpenClass) (outer : List OpenClass) (l : List Char) :
    Except Reject (Nested × List Char) := do
  match ← classStep f o outer (skip f l) with
  | (.inr s, rest) => pure (s, rest)
  | (.inl (o, outer), rest) =>
    if rest.length < l.length then classLoop f o outer rest else throw .classUnclosed
termination_by l.length

/-- A bracketed class, read after its opening bracket. -/
def bracketed (f : Flags) (l : List Char) : Except Reject (Nested × List Char) := do
  let (o, rest) ← openClass f l
  classLoop f o [] rest

/-! ## Flags -/

/-- The flags with one of them switched. -/
def Flags.switch (f : Flags) (on : Bool) : Char → Option Flags
  | 'i' => some { f with ignoreCase := on }
  | 'm' => some { f with multiLine := on }
  | 's' => some { f with dotAll := on }
  | 'U' => some { f with reluctant := on }
  | 'u' => some { f with unicode := on }
  | 'R' => some { f with crlf := on }
  | 'x' => some { f with verbose := on }
  | _ => none

/--
Flags up to the colon or parenthesis that ends them, read onto `f`. No flag may be given twice, at
most one hyphen may stand among them, and it may not be last.
-/
def flagRun (f : Flags) (seen : List Char) (on : Bool) (dangling : Bool) :
    List Char → Except Reject (Flags × Bool × Char × List Char)
  | [] => .error .flag
  | c :: r =>
    if c = ':' ∨ c = ')' then
      if dangling then .error .flag else .ok (f, seen.isEmpty, c, r)
    else if seen.contains c then .error .flag
    else if c = '-' then flagRun f (c :: seen) false true r
    else
      match Flags.switch f on c with
      | some f => flagRun f (c :: seen) on false r
      | none => .error .flag

/-! ## Groups -/

/-- An item of a sequence with the depth to which it nests; `none` stands for inline flags. -/
abbrev Item : Type := Option (Node × Nat)

/-- What is read at one nesting level. -/
structure Level where
  /-- The items of the alternative in hand, the last first. -/
  items : List Item := []
  /-- The items of the alternatives before it, the last alternative first. -/
  alts : List (List Item) := []
  deriving Inhabited

/-- What a group does with what it holds. -/
inductive GroupKind where
  /-- It holds it together. -/
  | plain
  /-- It also keeps what matches, under a number. -/
  | kept (number : Nat)
  /-- It forbids it at its place. -/
  | negative
  deriving Repr, DecidableEq, Inhabited

/-- The pattern of a group that holds a pattern. -/
def GroupKind.apply : GroupKind → Node → Node
  | plain, a => .group none a
  | kept n, a => .group (some n) a
  | negative, a => .notAhead a

/-- A group that is open. -/
structure OpenGroup where
  outer : Level
  flags : Flags
  kind : GroupKind
  deriving Inhabited

/-- Where the reader stands between two rounds. -/
structure State where
  flags : Flags
  level : Level := {}
  groups : List OpenGroup := []
  names : List (List Char) := []
  /-- How many groups have a number so far. -/
  kept : Nat := 0
  deriving Inhabited

/-- The items of an alternative, the last first, as one pattern. -/
def ofItems (items : List Item) : Node × Nat :=
  let nodes := items.reverse
  let depth := (nodes.map fun i => (i.map (·.2)).getD 0).foldl max 0
  (Node.ofSeq (nodes.filterMap (·.map (·.1))), if nodes.length ≤ 1 then depth else depth + 1)

/-- The alternatives at the level as one pattern each. -/
def Level.alternatives (l : Level) : List (Node × Nat) := (l.items :: l.alts).reverse.map ofItems

/-- Alternatives as one pattern. -/
def either (alts : List (Node × Nat)) : Node × Nat :=
  let depth := (alts.map (·.2)).foldl max 0
  (Node.ofAlts (alts.map (·.1)), if alts.length ≤ 1 then depth else depth + 1)

/-- The state with one more item. -/
def State.push (s : State) (n : Node) (depth : Nat) : State :=
  { s with level := { s.level with items := some (n, depth) :: s.level.items } }

/-- The state with another alternative begun. -/
def State.bar (s : State) : State :=
  { s with level := { items := [], alts := s.level.items :: s.level.alts } }

/-- The state with other flags from here on. -/
def State.switch (s : State) (f : Flags) : State :=
  { s with flags := f, level := { s.level with items := none :: s.level.items } }

/-- The state with the last item repeated. -/
def State.repeatLast (s : State) (greedy : Bool) (min : Nat) (max : Option Nat) :
    Except Reject State :=
  match s.level.items with
  | some (n, depth) :: items =>
    .ok { s with level :=
      { s.level with
        items := some (.rep n (greedy != s.flags.reluctant) min max, depth + 1) :: items } }
  | _ => .error .repetitionMissing

/-- The pattern of one character. -/
def literal (f : Flags) (c : Char) : Node := .one (foldedBy f (.single c))

/-- The pattern of any character. -/
def dot (f : Flags) : Except Reject Node :=
  if ¬f.unicode then .error .notText
  else if f.dotAll then .ok (.one .all)
  else if f.crlf then .ok (.one (.compl (.ofList ['\n', '\r'])))
  else .ok (.one (.compl (.single '\n')))

/-- The name of a group up to the closing angle bracket, and the text after it. -/
def groupName (first : Bool) (acc : List Char) : List Char → Option (List Char × List Char)
  | [] => none
  | '>' :: r => if first then none else some (acc.reverse, r)
  | c :: r =>
    let fits :=
      c == '_' || isAlphabetic c ||
        (!first && (c == '.' || c == '[' || c == ']' || isNumeric c))
    if fits then groupName false (c :: acc) r else none

/-- The state inside a group that opens. -/
def State.enter (s : State) (inner : Flags) (kind : GroupKind) : State :=
  { s with
    flags := inner
    level := {}
    groups := { outer := s.level, flags := s.flags, kind } :: s.groups }

/-- The state inside a group that opens and has the next number. -/
def State.enterKept (s : State) : State :=
  { s.enter s.flags (.kept (s.kept + 1)) with kept := s.kept + 1 }

/-- The state inside a group that has a name, read after the angle bracket that opens the name. -/
def namedGroup (s : State) (l : List Char) : Except Reject (State × List Char) :=
  match groupName true [] l with
  | none => .error .groupName
  | some (name, rest) =>
    if s.names.contains name then .error .groupName
    else .ok ({ s.enterKept with names := name :: s.names }, rest)

/--
The state after flags, read after their question mark. Flags before a colon hold inside the group
that they open, flags alone to the end of the group around them.
-/
def flagGroup (s : State) (l : List Char) : Except Reject (State × List Char) := do
  let (f, bare, stop, rest) ← flagRun s.flags [] true false l
  if stop = ':' then .ok (s.enter f .plain, rest)
  else if bare then .error .repetitionMissing
  else .ok (s.switch f, rest)

/-- The step on an opening parenthesis. -/
def openGroup (g : Grammar) (s : State) (l : List Char) : Except Reject (State × List Char) :=
  match skip s.flags l with
  | '?' :: '=' :: _ | '?' :: '<' :: '=' :: _ | '?' :: '<' :: '!' :: _ => .error .lookaround
  | '?' :: '!' :: r =>
    if g.lookahead then .ok (s.enter s.flags .negative, r) else .error .lookaround
  | '?' :: 'P' :: '<' :: r => namedGroup s r
  | '?' :: '<' :: r => namedGroup s r
  | '?' :: r => flagGroup s r
  | r => .ok (s.enterKept, r)

/-- The step on a closing parenthesis. -/
def closeGroup (s : State) : Except Reject State :=
  match s.groups with
  | [] => .error .groupUnopened
  | o :: groups =>
    let (n, depth) := either s.level.alternatives
    .ok ({ s with level := o.outer, flags := o.flags, groups }.push (o.kind.apply n) (depth + 1))

/-- Whether a question mark follows, which turns what a repetition prefers, and the text after. -/
def readTurn : List Char → Bool × List Char
  | '?' :: r => (true, r)
  | l => (false, l)

/-- The step on a repetition whose bounds are read. -/
def repetition (s : State) (min : Nat) (max : Option Nat) (l : List Char) :
    Except Reject (State × List Char) :=
  let (turned, r) := readTurn l
  (s.repeatLast (!turned) min max).map (·, r)

/-- One round of the reader. -/
def stepOn (g : Grammar) (s : State) (c : Char) (r : List Char) :
    Except Reject (State × List Char) :=
  let f := s.flags
  match c with
  | '(' => openGroup g s r
  | ')' => (closeGroup s).map (·, r)
  | '|' => .ok (s.bar, r)
  | '[' => do
    let (cls, rest) ← bracketed f r
    .ok (s.push (.one cls.set) cls.depth, rest)
  | '?' => repetition s 0 (some 1) r
  | '*' => repetition s 0 none r
  | '+' => repetition s 1 none r
  | '\x7b' => do
    -- that there is nothing to repeat is noticed before the counts are read
    let _ ← s.repeatLast true 0 none
    let (min, max, rest) ← counts f r
    repetition s min max (skip f rest)
  | '\\' => do
    let (e, rest) ← escapeSequence f r
    match e with
    | .char c => .ok (s.push (literal f c) 0, rest)
    | .byte n =>
      if n < 0x80 then .ok (s.push (literal f (Char.ofNat n)) 0, rest) else .error .notText
    | .set cls => .ok (s.push (.one cls) 0, rest)
    | .anchor a => .ok (s.push (.anchor a) 0, rest)
  | '.' => (dot f).map fun n => (s.push n 0, r)
  | '^' =>
    let a := if ¬f.multiLine then .textStart else if f.crlf then .lineStartReturn else .lineStart
    .ok (s.push (.anchor a) 0, r)
  | '$' =>
    let a := if ¬f.multiLine then .textEnd else if f.crlf then .lineEndReturn else .lineEnd
    .ok (s.push (.anchor a) 0, r)
  | c => .ok (s.push (literal f c) 0, r)

/-- All rounds of the reader. -/
def loop (g : Grammar) (s : State) (l : List Char) : Except Reject State := do
  match skip s.flags l with
  | [] => pure s
  | c :: r =>
    let (s, rest) ← stepOn g s c r
    if rest.length < l.length then loop g s rest else throw .notText
termination_by l.length

/-- The state before the first round. -/
def start (g : Grammar) : State := { flags := { ignoreCase := g.ignoreCase } }

/-- The alternatives of a pattern, read on from a state to the end of the text. -/
def alternativesFrom (g : Grammar) (s : State) (l : List Char) :
    Except Reject (List (Node × Nat)) := do
  let s ← loop g s l
  if ¬s.groups.isEmpty then throw .groupUnclosed else pure s.level.alternatives

/-- The alternatives of the pattern written by a text, however deep they nest. -/
def alternatives (g : Grammar) (l : List Char) : Except Reject (List (Node × Nat)) :=
  alternativesFrom g (start g) l

end Parser

/-- The pattern written by a text. -/
def Node.read (g : Grammar) (l : List Char) : Except Reject Node := do
  let (n, depth) := Parser.either (← Parser.alternatives g l)
  if depth > nestLimit then throw .nesting else pure n

end RemoteSearch.Pattern

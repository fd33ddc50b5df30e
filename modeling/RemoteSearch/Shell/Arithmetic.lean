import RemoteSearch.Shell.Token

/-!
# Arithmetic of POSIX commands

Expressions on whole numbers of 64 bits, which wrap around. A text becomes a term and the term a
value; on the way variables may get values, which the rest of the term sees.

## Termination

Terms are read with a number that the count of symbols bounds.
-/

namespace RemoteSearch.Shell.Arithmetic

/-- Why an expression has no value. -/
inductive Cause where
  | primary
  | ending
  | colon
  | parenthesis
  | divisionByZero
  /-- The value of a variable that is no number. -/
  | illegalNumber (text : String)
  deriving Repr, DecidableEq, Inhabited

/-- What a shell says of the expression of a text. -/
def Cause.message (text : String) : Cause → String
  | primary => s!"arithmetic expression: expecting primary: \"{text}\""
  | ending => s!"arithmetic expression: expecting EOF: \"{text}\""
  | colon => s!"arithmetic expression: expecting ':': \"{text}\""
  | parenthesis => s!"arithmetic expression: expecting ')': \"{text}\""
  | divisionByZero => s!"arithmetic expression: division by zero: \"{text}\""
  | illegalNumber value => s!"Illegal number: {value}"

/-! ## Numbers -/

/-- The number nearest to one that may be too large. -/
def clamp (n : Int) : Int64 := 
  Int64.ofInt (min (max n (-0x8000_0000_0000_0000)) 0x7FFF_FFFF_FFFF_FFFF)

/-- The value of a digit, in a base up to sixteen. -/
def digit? (base : Nat) (c : Char) : Option Nat :=
  let value :=
    if c.isDigit then some (c.toNat - 48)
    else if 'a' ≤ c ∧ c ≤ 'f' then some (c.toNat - 87)
    else if 'A' ≤ c ∧ c ≤ 'F' then some (c.toNat - 55)
    else none
  value.filter (· < base)

/-- The number that some digits make. -/
def natOf (base : Nat) (l : List Char) : Nat :=
  l.foldl (fun n c => base * n + (digit? base c).getD 0) 0

/-- The number at the start of a text, and the rest: octal after a zero, hexadecimal after `0x`. -/
def readNumber (l : List Char) : Nat × List Char :=
  let isDigitOf (base : Nat) (c : Char) : Bool := (digit? base c).isSome
  match l with
  | '0' :: x :: c :: r =>
    if (x = 'x' ∨ x = 'X') ∧ isDigitOf 16 c then
      (natOf 16 ((c :: r).takeWhile (isDigitOf 16)), (c :: r).dropWhile (isDigitOf 16))
    else (natOf 8 (l.takeWhile (isDigitOf 8)), l.dropWhile (isDigitOf 8))
  | '0' :: _ => (natOf 8 (l.takeWhile (isDigitOf 8)), l.dropWhile (isDigitOf 8))
  | _ => (natOf 10 (l.takeWhile Char.isDigit), l.dropWhile Char.isDigit)

/-- Whether a character is a blank between symbols. -/
def isBlank (c : Char) : Bool := [' ', '\t', '\n', '\x0b', '\x0c', '\r'].contains c

/-- The number that the value of a variable is; nothing counts as zero. -/
def numberOf? (value : List Char) : Option Int64 :=
  let l := value.dropWhile isBlank
  let (negative, digits) :=
    match l with
    | '-' :: r => (true, r)
    | '+' :: r => (false, r)
    | r => (false, r)
  if digits.head?.any Char.isDigit then
    let (n, rest) := readNumber digits
    let signed : Int := if negative then -(n : Int) else n
    if rest.all isBlank && (clamp signed).toInt = signed then some (clamp signed) else none
  else if l.isEmpty then some 0
  else none

/-! ## Symbols -/

/-- A symbol of an expression. -/
inductive Symbol where
  | number (n : Int64)
  | name (text : String)
  | mark (text : String)
  deriving Repr, DecidableEq, Inhabited

/-- Marks of more than one character, the longest first. -/
def longMarks : List String :=
  ["<<=", ">>=", "&&", "||", "<<", ">>", "<=", ">=", "==", "!=", "*=", "/=", "%=", "+=", "-=",
    "&=", "^=", "|="]

/-- The symbol at the start of a text, and the characters that it takes after the first one. -/
def readSymbol (c : Char) (r : List Char) : Symbol × Nat :=
  if c.isDigit then
    let (n, rest) := readNumber (c :: r)
    (.number (clamp n), r.length - rest.length)
  else if isNameStart c then
    let more := r.takeWhile isNameChar
    (.name (String.ofList (c :: more)), more.length)
  else
    match longMarks.find? fun m => m.toList.isPrefixOf (c :: r) with
    | some m => (.mark m, m.length - 1)
    | none => (.mark c.toString, 0)

/-- The symbols of a text. -/
def symbols (l : List Char) : List Symbol :=
  match l with
  | [] => []
  | c :: r =>
    if isBlank c then symbols r
    else (readSymbol c r).1 :: symbols (r.drop (readSymbol c r).2)
termination_by l.length
decreasing_by
  all_goals
    simp only [List.length_cons, List.length_drop]
    omega

/-! ## Terms -/

/-- An operation on two numbers. -/
inductive Operation where
  | times | divided | remainder | plus | minus | left | right | less | atMost | greater | atLeast
  | equal | unequal | and | xor | or
  deriving Repr, DecidableEq, Inhabited

/-- How operations are written, and how loosely they bind. -/
def operations : List (String × Operation × Nat) :=
  [("*", .times, 0), ("/", .divided, 0), ("%", .remainder, 0), ("+", .plus, 1), ("-", .minus, 1),
    ("<<", .left, 2), (">>", .right, 2), ("<", .less, 3), ("<=", .atMost, 3), (">", .greater, 3),
    (">=", .atLeast, 3), ("==", .equal, 4), ("!=", .unequal, 4), ("&", .and, 5), ("^", .xor, 6),
    ("|", .or, 7)]

/-- Operations that an assignment may carry out with the old value. -/
def assigning : List (String × Option Operation) :=
  [("=", none), ("*=", some .times), ("/=", some .divided), ("%=", some .remainder),
    ("+=", some .plus), ("-=", some .minus), ("<<=", some .left), (">>=", some .right),
    ("&=", some .and), ("^=", some .xor), ("|=", some .or)]

/-- An expression. -/
inductive Term where
  | number (n : Int64)
  | named (name : String)
  | negative (t : Term)
  | complement (t : Term)
  | not (t : Term)
  | binary (o : Operation) (a b : Term)
  | both (a b : Term)
  | either (a b : Term)
  | choice (c a b : Term)
  | assign (name : String) (o : Option Operation) (t : Term)
  deriving Repr, DecidableEq, Inhabited

/-- The operation that comes next, if it binds no looser than some level. -/
def operation? (level : Nat) : List Symbol → Option (Operation × Nat)
  | .mark m :: _ => (operations.lookup m).filter fun o => o.2 ≤ level
  | _ => none

mutual

/-- Reads a number, a variable, or what a sign or a parenthesis begins. -/
def readPrimary (n : Nat) (l : List Symbol) : Except Cause (Term × List Symbol) :=
  match n, l with
  | _ + 1, .number k :: r => .ok (.number k, r)
  | _ + 1, .name text :: r => .ok (.named text, r)
  | n + 1, .mark "(" :: r => do
    match ← readTerm n r with
    | (t, .mark ")" :: r) => .ok (t, r)
    | _ => .error .parenthesis
  | n + 1, .mark "+" :: r => readPrimary n r
  | n + 1, .mark "-" :: r => do
    let (t, r) ← readPrimary n r
    .ok (.negative t, r)
  | n + 1, .mark "~" :: r => do
    let (t, r) ← readPrimary n r
    .ok (.complement t, r)
  | n + 1, .mark "!" :: r => do
    let (t, r) ← readPrimary n r
    .ok (.not t, r)
  | _, _ => .error .primary

/-- Goes on with a term by the operations that bind no looser than some level. -/
def readOperations (n level : Nat) (a : Term) (l : List Symbol) :
    Except Cause (Term × List Symbol) :=
  match n with
  | 0 => .error .primary
  | n + 1 =>
    match operation? level l with
    | none => .ok (a, l)
    | some (o, k) => do
      let (b, r) ← readPrimary n l.tail
      let (b, r) ← if k = 0 then .ok (b, r) else readOperations n (k - 1) b r
      readOperations n level (.binary o a b) r

/-- Reads terms that must all hold. -/
def readBoth (n : Nat) (l : List Symbol) : Except Cause (Term × List Symbol) :=
  match n with
  | 0 => .error .primary
  | n + 1 => do
    let (a, r) ← readPrimary n l
    match ← readOperations n 7 a r with
    | (a, .mark "&&" :: r) =>
      let (b, r) ← readBoth n r
      .ok (.both a b, r)
    | p => .ok p

/-- Reads terms of which one must hold. -/
def readEither (n : Nat) (l : List Symbol) : Except Cause (Term × List Symbol) :=
  match n with
  | 0 => .error .primary
  | n + 1 => do
    match ← readBoth n l with
    | (a, .mark "||" :: r) =>
      let (b, r) ← readEither n r
      .ok (.either a b, r)
    | p => .ok p

/-- Reads a choice, or a term without one. -/
def readChoice (n : Nat) (l : List Symbol) : Except Cause (Term × List Symbol) :=
  match n with
  | 0 => .error .primary
  | n + 1 => do
    match ← readEither n l with
    | (c, .mark "?" :: r) =>
      match ← readTerm n r with
      | (a, .mark ":" :: r) =>
        let (b, r) ← readChoice n r
        .ok (.choice c a b, r)
      | _ => .error .colon
    | p => .ok p

/-- Reads an assignment, or a term without one. -/
def readTerm (n : Nat) (l : List Symbol) : Except Cause (Term × List Symbol) :=
  match n with
  | 0 => .error .primary
  | n + 1 =>
    match l with
    | .name text :: .mark m :: r =>
      match assigning.lookup m with
      | some o => do
        let (t, r) ← readTerm n r
        .ok (.assign text o t, r)
      | none => readChoice n l
    | _ => readChoice n l

end

/-- The term of a text. -/
def term? (text : List Char) : Except Cause Term := do
  let l := symbols text
  match ← readTerm (8 * l.length + 8) l with
  | (t, []) => .ok t
  | _ => .error .ending

/-! ## Values -/

/-- A truth value as a number. -/
def ofBool (b : Bool) : Int64 := if b then 1 else 0

/-- The result of an operation. -/
def Operation.apply (o : Operation) (a b : Int64) : Except Cause Int64 :=
  match o with
  | times => .ok (a * b)
  | divided => if b = 0 then .error .divisionByZero else .ok (a / b)
  | remainder => if b = 0 then .error .divisionByZero else .ok (a % b)
  | plus => .ok (a + b)
  | minus => .ok (a - b)
  | left => .ok (a <<< b)
  | right => .ok (a >>> b)
  | less => .ok (ofBool (a < b))
  | atMost => .ok (ofBool (a ≤ b))
  | greater => .ok (ofBool (b < a))
  | atLeast => .ok (ofBool (b ≤ a))
  | equal => .ok (ofBool (a == b))
  | unequal => .ok (ofBool (a != b))
  | and => .ok (a &&& b)
  | xor => .ok (a ^^^ b)
  | or => .ok (a ||| b)

/-- Values that variables have been given, latest first. -/
abbrev Changes : Type := List (String × Int64)

/-- The number in a variable. -/
def variableValue (values : String → String) (changes : Changes) (name : String) :
    Except Cause Int64 :=
  match changes.lookup name with
  | some n => .ok n
  | none =>
    match numberOf? (values name).toList with
    | some n => .ok n
    | none => .error (.illegalNumber (values name))

/-- The value of a term, and the values that it gives to variables. -/
def Term.value (values : String → String) : Term → Changes → Except Cause (Int64 × Changes)
  | number n, s => .ok (n, s)
  | named name, s => (variableValue values s name).map (·, s)
  | negative t, s => (t.value values s).map fun p => (-p.1, p.2)
  | complement t, s => (t.value values s).map fun p => (~~~p.1, p.2)
  | not t, s => (t.value values s).map fun p => (ofBool (p.1 == 0), p.2)
  | binary o a b, s => do
    let (x, s) ← a.value values s
    let (y, s) ← b.value values s
    (o.apply x y).map (·, s)
  | both a b, s => do
    let (x, s) ← a.value values s
    if x == 0 then .ok (0, s) else (b.value values s).map fun p => (ofBool (p.1 != 0), p.2)
  | either a b, s => do
    let (x, s) ← a.value values s
    if x != 0 then .ok (1, s) else (b.value values s).map fun p => (ofBool (p.1 != 0), p.2)
  | choice c a b, s => do
    let (x, s) ← c.value values s
    if x != 0 then a.value values s else b.value values s
  | assign name o t, s => do
    let (y, s) ← t.value values s
    match o with
    | none => .ok (y, (name, y) :: s)
    | some o =>
      let z ← o.apply (← variableValue values s name) y
      .ok (z, (name, z) :: s)

/-- The value of an expression, and the values that it gives to variables, latest first. -/
def evaluate (values : String → String) (text : List Char) : Except Cause (Int64 × Changes) := do
  (← term? text).value values []

/-- Without parentheses, products go before sums and sums before comparisons. -/
example : (evaluate (fun _ => "") "1 + 2 * 3 < 7".toList).map (·.1) = .ok 0 := by cbv

/-- A variable keeps what it was given. -/
example : (evaluate (fun _ => "4") "x += 3 + x".toList).map (·.1) = .ok 11 := by cbv

end RemoteSearch.Shell.Arithmetic

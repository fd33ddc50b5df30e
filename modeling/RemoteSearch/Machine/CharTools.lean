import RemoteSearch.Machine.TextTools

/-!
# Tools for parts of lines

The `tr` and `cut` of a machine: other characters instead of some, and some fields or columns of
each line.
-/

namespace RemoteSearch.Machine

open Text

/-! ## Characters -/

/-- The bytes of a class by its name. -/
def classBytes (name : String) : List UInt8 :=
  let bytes := (List.range 256).map Nat.toUInt8
  let chosen (test : Char → Bool) : List UInt8 := bytes.filter fun b => test (Char.ofNat b.toNat)
  match name with
  | "lower" => chosen Char.isLower
  | "upper" => chosen Char.isUpper
  | "alpha" => chosen fun c => c.toNat < 128 && c.isAlpha
  | "digit" => chosen Char.isDigit
  | "alnum" => chosen fun c => c.toNat < 128 && c.isAlphanum
  | "space" => bytes.filter isBlankByte
  | "blank" => [9, 32]
  | "punct" => chosen fun c => 33 ≤ c.toNat && c.toNat < 127 && !c.isAlphanum
  | "print" => chosen fun c => 32 ≤ c.toNat && c.toNat < 127
  | "graph" => chosen fun c => 33 ≤ c.toNat && c.toNat < 127
  | "cntrl" => chosen fun c => c.toNat < 32 || c.toNat = 127
  | _ => []

/-- The bytes of a text with its escapes replaced. -/
def setBytes (l : List Char) : List UInt8 :=
  match l with
  | [] => []
  | '\\' :: r =>
    let (bytes, n) := readEscape r
    (if n = 0 ∧ !r.isEmpty then [] else bytes) ++ setBytes (r.drop n)
  | c :: r => Utf8.encodeChar c ++ setBytes r
termination_by l.length
decreasing_by
  all_goals
    simp only [List.length_cons, List.length_drop]
    omega

/-- The bytes from one to another. -/
def byteRange (a b : UInt8) : List UInt8 :=
  (List.range (b.toNat + 1 - a.toNat)).map fun n => (a.toNat + n).toUInt8

/-- The bytes of a set, with its ranges and classes. -/
def spreadSet (n : Nat) (l : List UInt8) : List UInt8 :=
  match n, l with
  | n + 1, 91 :: 58 :: r =>
    let name := r.takeWhile (· != 58)
    match r.drop name.length with
    | 58 :: 93 :: rest => classBytes (String.ofList (asChars name)) ++ spreadSet n rest
    | _ => 91 :: spreadSet n (58 :: r)
  | n + 1, a :: 45 :: b :: r => byteRange a b ++ spreadSet n r
  | n + 1, a :: r => a :: spreadSet n r
  | _, _ => []

/-- The set that a text describes. -/
def setOf (text : String) : List UInt8 :=
  let l := setBytes text.toList
  spreadSet l.length l

/-- Bytes of which those of a set do not come twice in a row. -/
def squeeze (set : List UInt8) : List UInt8 → List UInt8
  | a :: b :: r =>
    if a = b ∧ set.contains a then squeeze set (b :: r) else a :: squeeze set (b :: r)
  | l => l

/-- The byte that takes the place of another. -/
def replaced (source target : List UInt8) (b : UInt8) : UInt8 :=
  match source.reverse.idxOf? b with
  | none => b
  | some i =>
    let i := source.length - 1 - i
    (target[i]?).getD (target.getLast?.getD b)

/-- Runs `tr`. -/
def runTranslate (arguments : List String) (p : Process) : Process :=
  withOptions "tr" 1 ['c', 'C', 'd', 's'] [] [] arguments
    (fun g p =>
      let complement (set : List UInt8) : List UInt8 :=
        if g.has 'c' || g.has 'C' then
          ((List.range 256).map Nat.toUInt8).filter fun b => !set.contains b
        else set
      let passing (f : List UInt8 → List UInt8) : Process :=
        let (content, p) := p.takeInput
        (p.emit (f content)).finish 0
      let extra (b reason : String) : Process := refuse "tr" s!"extra operand '{b}'{reason}" 1 p
      match g.operands, g.has 'd', g.has 's' with
      | [], _, _ => missingOperand "tr" p
      | [a], true, _ => passing fun l => l.filter fun b => !(complement (setOf a)).contains b
      | [a], false, true => passing (squeeze (complement (setOf a)))
      | [a], false, false =>
        refuse "tr"
          s!"missing operand after '{a}'\nTwo strings must be given when translating." 1 p
      | [a, b], true, true =>
        passing fun l =>
          squeeze (setOf b) (l.filter fun c => !(complement (setOf a)).contains c)
      | [_, b], true, false =>
        extra b "\nOnly one string may be given when deleting without squeezing repeats."
      | [a, b], false, squeezing =>
        passing fun l =>
          let mapped := l.map (replaced (complement (setOf a)) (setOf b))
          if squeezing then squeeze (setOf b) mapped else mapped
      | _ :: _ :: c :: _, _, _ => extra c "")
    p

/-! ## Fields -/

/-- A range of positions, which count from one. -/
structure Span where
  first : Nat
  last : Option Nat
  deriving Repr, DecidableEq, Inhabited

/-- The spans that a text lists. -/
def spans? (text : String) : Option (List Span) :=
  (Text.split ',' text).mapM fun part =>
    match Text.split '-' part with
    | [a] => do
      let n ← natOfDigits a.toList
      if n = 0 then none else some ⟨n, some n⟩
    | ["", b] => do some ⟨1, some (← natOfDigits b.toList)⟩
    | [a, ""] => do some ⟨← natOfDigits a.toList, none⟩
    | [a, b] => do some ⟨← natOfDigits a.toList, some (← natOfDigits b.toList)⟩
    | _ => none

/-- The items at the positions of some spans. -/
def chosenItems {α : Type} (spans : List Span) (l : List α) : List α :=
  (l.zipIdx 1).filterMap fun q =>
    if spans.any fun s => s.first ≤ q.2 && s.last.all (q.2 ≤ ·) then some q.1 else none

/-- Some fields of a line. -/
def cutFields (delimiter : UInt8) (only : Bool) (spans : List Span) (line : List UInt8) :
    Option (List UInt8) :=
  if line.contains delimiter then
    some ([delimiter].intercalate (chosenItems spans (line.splitOn delimiter)))
  else if only then none
  else some line

/-- Runs `cut`. -/
def runCut (arguments : List String) (p : Process) : Process :=
  withOptions "cut" 1 ['s', 'n'] ['b', 'c', 'd', 'f'] [] arguments
    (fun g p =>
      let passing (f : List UInt8 → Option (List UInt8)) : Process :=
        forEachFile (cannotRead "cut")
          (fun _ content p => p.emit (joinLines ((linesOf content).filterMap f)))
          (orInput g.operands) (p.finish 0)
      match (g.value? 'f'), (g.value? 'c' <|> g.value? 'b') with
      | some f, _ =>
        match spans? f with
        | some spans =>
          let delimiter := ((g.value? 'd').bind fun d => (Utf8.encodeString d).head?).getD 9
          passing (cutFields delimiter (g.has 's') spans)
        | none => refuse "cut" "fields are numbered from 1" 1 p
      | none, some c =>
        match spans? c with
        | some spans => passing fun line => some (chosenItems spans line)
        | none => refuse "cut" "byte/character positions are numbered from 1" 1 p
      | none, none =>
        refuse "cut" "you must specify a list of bytes, characters, or fields" 1 p)
    p

end RemoteSearch.Machine

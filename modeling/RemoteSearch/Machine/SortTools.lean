import RemoteSearch.Machine.TextTools

/-!
# Tools for the order of lines

The `sort` and `uniq` of a machine, in the order of bytes.
-/

namespace RemoteSearch.Machine

open Text

/-- The number at the start of a line. -/
def leadingNumber (l : List UInt8) : Int :=
  let l := (asChars l).dropWhile fun c => c == ' ' || c == '\t'
  match l with
  | '-' :: r => -((natOfDigits (r.takeWhile Char.isDigit)).getD 0 : Int)
  | r => ((natOfDigits (r.takeWhile Char.isDigit)).getD 0 : Int)

/-- A line as it is compared. -/
def comparedLine (g : Given) (l : List UInt8) : List UInt8 :=
  if g.has 'f' then Utf8.encode ((asChars l).map Char.toUpper) else l

/-- Whether a line comes no later than another: by number or by text, then by all of the text. -/
def sortedBefore (g : Given) (a b : List UInt8) : Bool :=
  let byText := decide (comparedLine g a ≤ comparedLine g b)
  let straight :=
    if g.has 'n' && leadingNumber a != leadingNumber b then leadingNumber a < leadingNumber b
    else if comparedLine g a == comparedLine g b then decide (a ≤ b)
    else byText
  if g.has 'r' then a == b || !straight else straight

/-- Each line once, where it comes several times in a row; with the number of times. -/
def runsOf (l : List (List UInt8)) : List (Nat × List UInt8) :=
  l.foldr
    (fun line runs =>
      match runs with
      | (n, other) :: r => if line == other then (n + 1, other) :: r else (1, line) :: runs
      | [] => [(1, line)])
    []

/-- Runs `sort`. -/
def runSort (arguments : List String) (p : Process) : Process :=
  withOptions "sort" 2 ['n', 'r', 'u', 'f', 's'] [] [] arguments
    (fun g p =>
      match (orInput g.operands).find? fun path =>
          path != "-" && !(p.readFile path).toBool with
      | some path =>
        let phrase :=
          match p.readFile path with
          | .error e => e.phrase
          | .ok _ => ""
        (p.complain s!"sort: cannot read: {path}: {phrase}\n").finish 2
      | none =>
        let (lines, p) := (orInput g.operands).foldl
          (fun (lines, p) path =>
            if path == "-" then
              let (content, p) := p.takeInput
              (lines ++ linesOf content, p)
            else (lines ++ linesOf ((p.readFile path).toOption.getD []), p))
          (([] : List (List UInt8)), p)
        let sorted := lines.mergeSort (sortedBefore g)
        let kept := if g.has 'u' then (runsOf sorted).map Prod.snd else sorted
        (p.emit (joinLines kept)).finish 0)
    p

/-- Runs `uniq`. -/
def runUnique (arguments : List String) (p : Process) : Process :=
  withOptions "uniq" 1 ['c', 'd', 'u'] [] [] arguments
    (fun g p =>
      forEachFile (cannotRead "uniq")
        (fun _ content p =>
          let runs := (runsOf (linesOf content)).filter fun r =>
            (!g.has 'd' || 1 < r.1) && (!g.has 'u' || r.1 = 1)
          let shown (r : Nat × List UInt8) : List UInt8 :=
            if g.has 'c' then pad 7 false (Utf8.encodeString (toString r.1)) ++ [32] ++ r.2 else r.2
          p.emit (joinLines (runs.map shown)))
        ((orInput g.operands).take 1) (p.finish 0))
    p

end RemoteSearch.Machine

import RemoteSearch.Machine.TextTools

/-!
# Tools that make text

Sequences of numbers, lines without end, and the parts of paths.
-/

namespace RemoteSearch.Machine

open Text

/-- A whole number with its sign. -/
def integer? (text : String) : Option Int :=
  match text.toList with
  | '-' :: r => (natOfDigits r).map fun n => -(n : Int)
  | '+' :: r => (natOfDigits r).map Int.ofNat
  | r => (natOfDigits r).map Int.ofNat

/-- The numbers from one to another in steps. -/
def numbersFrom (first step last : Int) : List Int :=
  let count : Int :=
    if 0 < step then (last - first) / step + 1
    else if step < 0 then (first - last) / (-step) + 1
    else 0
  (List.range count.toNat).map fun n : Nat => first + step * (n : Int)

/-- Runs `seq`. -/
def runSequence (arguments : List String) (p : Process) : Process :=
  let (separator, arguments) : String × List String :=
    match arguments with
    | "-s" :: s :: r => (s, r)
    | a :: r =>
      match a.toList with
      | '-' :: 's' :: s => (String.ofList s, r)
      | _ => ("\n", a :: r)
    | [] => ("\n", [])
  let shown (first step last : Int) : Process :=
    let texts := (numbersFrom first step last).map toString
    (p.print (if texts.isEmpty then "" else separator.intercalate texts ++ "\n")).finish 0
  match arguments with
  | [] => missingOperand "seq" p
  | _ :: _ :: _ :: d :: _ => refuse "seq" s!"extra operand '{d}'" 1 p
  | l =>
    match l.find? fun a => (integer? a).isNone with
    | some a => refuse "seq" s!"invalid floating point argument: '{a}'" 1 p
    | none =>
      match l.filterMap integer? with
      | [last] => shown 1 1 last
      | [first, last] => shown first 1 last
      | [first, step, last] => shown first step last
      | _ => p

/-- Runs `yes`, as far as anyone reads what it writes. -/
def runYes (arguments : List String) (p : Process) : Process :=
  let line := if arguments.isEmpty then "y" else " ".intercalate arguments
  match p.stream? 1 with
  | some .nothing => p.expire
  | _ => ((endlessPieces (Utf8.encodeString (line ++ "\n"))).foldl Process.emit p).finish 0

/-- Runs `basename`. -/
def runBaseName (arguments : List String) (p : Process) : Process :=
  match arguments with
  | [] => missingOperand "basename" p
  | [path] => (p.print (baseName path ++ "\n")).finish 0
  | path :: ending :: _ =>
    let name := baseName path
    let l := name.toList
    let e := ending.toList
    let kept := if l != e && e.isSuffixOf l then l.take (l.length - e.length) else l
    (p.print (String.ofList kept ++ "\n")).finish 0

/-- Runs `dirname`. -/
def runParentName (arguments : List String) (p : Process) : Process :=
  if arguments.isEmpty then missingOperand "dirname" p
  else (arguments.foldl (fun p path => p.print (parentName path ++ "\n")) p).finish 0

end RemoteSearch.Machine

import RemoteSearch.Machine.Process
import RemoteSearch.Shell.Arithmetic
import RemoteSearch.Text.Numeral

/-!
# Printing

The `echo` and `printf` of a shell: escapes, and formats that are filled with arguments again and
again for as long as there are any.

## Termination

Texts are read item by item, and each item takes at least one character.
-/

namespace RemoteSearch.Machine

open Text

/-! ## Escapes -/

/-- The value of octal digits. -/
def octalValue (l : List Char) : Nat := l.foldl (fun n c => 8 * n + (c.toNat - 48)) 0

/-- Whether a character is an octal digit. -/
def isOctal (c : Char) : Bool := '0' ≤ c && c ≤ '7'

/-- The byte that a letter stands for after a backslash. -/
def escapeByte? : Char → Option UInt8
  | 'a' => some 7
  | 'b' => some 8
  | 'e' => some 27
  | 'f' => some 12
  | 'n' => some 10
  | 'r' => some 13
  | 't' => some 9
  | 'v' => some 11
  | '\\' => some 92
  | _ => none

/-- What stands after a backslash: the bytes that it makes, and the number of its characters. -/
def readEscape (l : List Char) : List UInt8 × Nat :=
  match l with
  | [] => ([92], 0)
  | c :: _ =>
    if isOctal c then
      let digits := (l.takeWhile isOctal).take 3
      ([(octalValue digits).toUInt8], digits.length)
    else
      match escapeByte? c with
      | some b => ([b], 1)
      | none => ([92], 0)

/-- The same where a zero may stand before three digits. -/
def readLongEscape (l : List Char) : List UInt8 × Nat :=
  match l with
  | '0' :: r =>
    let digits := (r.takeWhile isOctal).take 3
    ([(octalValue digits).toUInt8], digits.length + 1)
  | l => readEscape l

/-- A text with its escapes replaced, and whether one of them ends all output. -/
def unescape (l : List Char) : List UInt8 × Bool :=
  match l with
  | [] => ([], false)
  | '\\' :: 'c' :: _ => ([], true)
  | '\\' :: r =>
    let (bytes, n) := readLongEscape r
    let (rest, ended) := unescape (r.drop n)
    (bytes ++ rest, ended)
  | c :: r =>
    let (rest, ended) := unescape r
    (Utf8.encodeChar c ++ rest, ended)
termination_by l.length
decreasing_by
  all_goals
    simp only [List.length_cons, List.length_drop]
    omega

/-- Runs `echo`. -/
def runEcho (arguments : List String) (p : Process) : Process :=
  let (ending, words) : List UInt8 × List String :=
    match arguments with
    | "-n" :: r => ([], r)
    | r => ([10], r)
  let (bytes, ended) := unescape (" ".intercalate words).toList
  (p.emit (if ended then bytes else bytes ++ ending)).finish 0

/-! ## Formats -/

/-- How long something may be, or must be. -/
inductive Extent where
  | absent
  | fixed (n : Nat)
  /-- As long as an argument says. -/
  | asked
  deriving Repr, DecidableEq, Inhabited

/-- What takes the place of an argument. -/
structure Directive where
  flags : List Char
  width : Extent
  precision : Extent
  kind : Char
  deriving Repr, DecidableEq, Inhabited

/-- An item of a format. -/
inductive FormatItem where
  | bytes (l : List UInt8)
  | directive (d : Directive)
  /-- The format is wrong from here on. -/
  | wrong (text : String)
  deriving Repr, DecidableEq, Inhabited

/-- A length at the start of a text, and the number of its characters. -/
def readExtent (l : List Char) : Extent × Nat :=
  match l with
  | '*' :: _ => (.asked, 1)
  | l =>
    let digits := l.takeWhile Char.isDigit
    (if digits.isEmpty then .absent else .fixed ((natOfDigits digits).getD 0), digits.length)

/-- The kinds of directives. -/
def directiveKinds : List Char := ['b', 'c', 's', 'd', 'i', 'o', 'u', 'x', 'X']

/-- What stands after a percent sign: an item, and the number of its characters. -/
def readDirective (l : List Char) : FormatItem × Nat :=
  let flags := l.takeWhile fun c => ['#', '-', '+', ' ', '0'].contains c
  let r := l.drop flags.length
  let (width, n) := readExtent r
  let r' := r.drop n
  let (precision, m) : Extent × Nat :=
    match r' with
    | '.' :: r'' =>
      let (e, k) := readExtent r''
      (if e = .absent then .fixed 0 else e, k + 1)
    | _ => (.absent, 0)
  let taken := flags.length + n + m
  match l.drop taken with
  | [] => (.wrong "missing format character", taken)
  | c :: _ =>
    if directiveKinds.contains c then (.directive ⟨flags, width, precision, c⟩, taken + 1)
    else (.wrong s!"%{String.ofList (l.take (taken + 1))}: invalid directive", taken + 1)

/-- The items of a format. -/
def formatItems (l : List Char) : List FormatItem :=
  match l with
  | [] => []
  | '%' :: '%' :: r => .bytes [37] :: formatItems r
  | '%' :: r => (readDirective r).1 :: formatItems (r.drop (readDirective r).2)
  | '\\' :: r => .bytes (readEscape r).1 :: formatItems (r.drop (readEscape r).2)
  | c :: r => .bytes (Utf8.encodeChar c) :: formatItems r
termination_by l.length
decreasing_by
  all_goals
    simp only [List.length_cons, List.length_drop]
    omega

/-! ## Filling -/

/-- What has come of a format so far. -/
structure Filling where
  arguments : List String
  output : List UInt8 := []
  /-- What is wrong with the arguments, latest first. -/
  complaints : List String := []
  /-- Whether an escape has ended all output. -/
  ended : Bool := false
  /-- What is wrong with the format. -/
  wrong : Option String := none
  deriving Repr, DecidableEq, Inhabited

namespace Filling

/-- Adds bytes. -/
def add (s : Filling) (bytes : List UInt8) : Filling := { s with output := s.output ++ bytes }

/-- The next argument, if there is one. -/
def next (s : Filling) : Option String × Filling :=
  (s.arguments.head?, { s with arguments := s.arguments.tail })

/-- The number that a text is, kept within bounds, and what is wrong with it. -/
def numberOf (text : String) : Int × Option String :=
  let l := text.toList.dropWhile Shell.Arithmetic.isBlank
  let (negative, digits) :=
    match l with
    | '-' :: r => (true, r)
    | '+' :: r => (false, r)
    | r => (false, r)
  match text.toList with
  | [] => (0, none)
  | '\'' :: r => (((Utf8.encode (r.take 1)).head?.getD 0).toNat, none)
  | '"' :: r => (((Utf8.encode (r.take 1)).head?.getD 0).toNat, none)
  | _ =>
    if digits.head?.any Char.isDigit then
      let (n, rest) := Shell.Arithmetic.readNumber digits
      let value : Int := if negative then -(n : Int) else n
      let kept := (Shell.Arithmetic.clamp value).toInt
      if !rest.isEmpty then (kept, some s!"{text}: not completely converted")
      else if kept != value then (kept, some s!"{text}: Numerical result out of range")
      else (kept, none)
    else (0, some s!"{text}: expected numeric value")

/-- The next argument as a number. -/
def nextNumber (s : Filling) : Int × Filling :=
  match s.next with
  | (none, s) => (0, s)
  | (some text, s) =>
    match numberOf text with
    | (n, none) => (n, s)
    | (n, some complaint) => (n, { s with complaints := complaint :: s.complaints })

/-- A length, for which an argument may be asked. -/
def extent (s : Filling) : Extent → Option Int × Filling
  | .absent => (none, s)
  | .fixed n => (some n, s)
  | .asked => let (n, s) := s.nextNumber; (some n, s)

end Filling

/-- Bytes among enough blanks to be as wide as they should be. -/
def pad (width : Nat) (atLeft : Bool) (l : List UInt8) : List UInt8 :=
  let blanks := List.replicate (width - l.length) 32
  if atLeft then l ++ blanks else blanks ++ l

/-- The digits of a number in a base up to sixteen. -/
def digitsIn (base n : Nat) : List Char := if n = 0 then ['0'] else Nat.toDigits base n

/-- The text of a number, as the kind and flags of a directive have it. -/
def numberText (d : Directive) (width : Nat) (atLeft : Bool) (precision : Option Nat) (n : Int) :
    List Char :=
  let signed := d.kind = 'd' ∨ d.kind = 'i'
  let size := if signed then n.natAbs else (n % 0x1_0000_0000_0000_0000).toNat
  let digits :=
    match d.kind with
    | 'x' => digitsIn 16 size
    | 'X' => (digitsIn 16 size).map Char.toUpper
    | 'o' => digitsIn 8 size
    | _ => digitsIn 10 size
  let digits := if precision = some 0 ∧ size = 0 then [] else digits
  let digits := List.replicate (precision.getD 0 - digits.length) '0' ++ digits
  let digits :=
    if d.kind = 'o' ∧ d.flags.contains '#' ∧ digits.head? ≠ some '0' then '0' :: digits
    else digits
  let front : List Char :=
    if signed then
      if n < 0 then ['-']
      else if d.flags.contains '+' then ['+']
      else if d.flags.contains ' ' then [' ']
      else []
    else if d.flags.contains '#' ∧ size ≠ 0 ∧ ['x', 'X'].contains d.kind then ['0', d.kind]
    else []
  let zeros :=
    if d.flags.contains '0' ∧ !atLeft ∧ precision.isNone then
      width - front.length - digits.length
    else 0
  front ++ List.replicate zeros '0' ++ digits

/-- Fills one directive. -/
def fillDirective (d : Directive) (s : Filling) : Filling :=
  let (width, s) := s.extent d.width
  let (precision, s) := s.extent d.precision
  let atLeft := d.flags.contains '-' || width.any (· < 0)
  let width := (width.getD 0).natAbs
  let precision := precision.filter (0 ≤ ·) |>.map Int.toNat
  let cut (l : List UInt8) : List UInt8 := match precision with | some n => l.take n | none => l
  if d.kind = 's' then
    let (a, s) := s.next
    s.add (pad width atLeft (cut (Utf8.encodeString (a.getD ""))))
  else if d.kind = 'b' then
    let (a, s) := s.next
    let (bytes, ended) := unescape (a.getD "").toList
    { s.add (pad width atLeft (cut bytes)) with ended }
  else if d.kind = 'c' then
    let (a, s) := s.next
    s.add (pad width atLeft [(Utf8.encodeString (a.getD "")).head?.getD 0])
  else
    let (n, s) := s.nextNumber
    s.add (pad width atLeft (Utf8.encode (numberText d width atLeft precision n)))

/-- Fills one item. -/
def fillItem (s : Filling) (i : FormatItem) : Filling :=
  if s.ended || s.wrong.isSome then s
  else
    match i with
    | .bytes l => s.add l
    | .directive d => fillDirective d s
    | .wrong text => { s with wrong := some text }

/-- Fills a format again and again for as long as it takes arguments. -/
def fillAll (items : List FormatItem) : Nat → Filling → Filling
  | 0, s => s
  | n + 1, s =>
    let filled := items.foldl fillItem s
    if filled.ended || filled.wrong.isSome || filled.arguments.isEmpty ||
      filled.arguments.length == s.arguments.length then filled
    else fillAll items n filled

/-- Runs `printf`. -/
def runPrintf (arguments : List String) (p : Process) : Process :=
  let usage := (p.warnAs "printf" "usage: printf format [arg ...]").finish 2
  let withFormat (format : String) (r : List String) : Process :=
    let s := fillAll (formatItems format.toList) (r.length + 1) { arguments := r }
    let p := s.complaints.reverse.foldl (fun p c => p.warnAs "printf" c) p
    let p := p.emit s.output
    match s.wrong with
    | some text => (p.warnAs "printf" text).finish 2
    | none => p.finish (if s.complaints.isEmpty then 0 else 1)
  match arguments with
  | [] => usage
  | "--" :: [] => usage
  | "--" :: format :: r => withFormat format r
  | format :: r =>
    match format.toList with
    | '-' :: c :: _ => (p.warnAs "printf" s!"Illegal option -{c}").finish 2
    | _ => withFormat format r

end RemoteSearch.Machine

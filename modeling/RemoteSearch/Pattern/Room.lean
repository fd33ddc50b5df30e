import RemoteSearch.Pattern.Layout.CharSet
import RemoteSearch.Pattern.Layout.Texts
import RemoteSearch.Pattern.Shape

/-!
# Patterns that fit

Whether there is room for a pattern. It is laid out twice, to be matched forward and backward, and
has to fit both ways. Where a match can begin anywhere, states that take any byte come first.

## Termination

`layouts` recurses on the shape.
-/

namespace RemoteSearch.Pattern

open Text

namespace Shape

/-- The text that a shape is. -/
def text? : Shape → Option (List Char)
  | text l => some l
  | _ => none

/-- The bytes of a text in the order in which they are taken. -/
def bytes (backward : Bool) (l : List Char) : List UInt8 :=
  if backward then (Utf8.encode l).reverse else Utf8.encode l

/-- A shape laid out, given its alternatives laid out. -/
def choose (backward : Bool) (a : Shape) (l : List (Lay Bool)) : Lay Bool :=
  match a, a.alternatives.mapM text? with
  | alt _ _, some ts => Layout.Texts.either (ts.map (bytes backward))
  | _, _ => Lay.either l

/-- The alternatives of a shape laid out. -/
def layouts (backward : Bool) : Shape → List (Lay Bool)
  | empty | place _ => [do
    let _ ← Lay.add 0
    pure false]
  | text l => [do
    Lay.addAll (bytes backward l).length 0
    pure false]
  | set r => [Layout.charSet backward r]
  | rep a _ min max =>
    [(choose backward a (a.layouts backward)).repeated a.neverEmpty min max]
  | group _ a =>
    if backward then [choose backward a (a.layouts backward)]
    else [do
      let _ ← Lay.add 0
      let e ← choose backward a (a.layouts backward)
      let _ ← Lay.add 0
      Lay.link e
      pure false]
  | seq a b =>
    let x := choose backward a (a.layouts backward)
    let y := choose backward b (b.layouts backward)
    [if backward then do
      Lay.link (← y)
      x
    else do
      Lay.link (← x)
      y]
  | alt a b => choose backward a (a.layouts backward) :: b.layouts backward

/-- A shape laid out. -/
def layout (backward : Bool) (a : Shape) : Lay Bool := choose backward a (a.layouts backward)

/-- What comes before a shape: a repetition of any byte, unless matches have their fixed place. -/
def leadIn (backward : Bool) (a : Shape) : Lay Unit :=
  let fixed := if backward then a.toEnd else a.fromStart
  if fixed then do
    let _ ← Lay.add 0
  else do
    let _ ← (Layout.asciiSet (.between 0 0)).anyTimes true
    Lay.ways 1

/-- A whole pattern laid out. -/
def whole (backward : Bool) (a : Shape) : Lay Unit := do
  a.leadIn backward
  if backward then
    let e ← a.layout backward
    let _ ← Lay.add 0
    Lay.link e
  else
    let _ ← Lay.add 0
    let e ← a.layout backward
    let _ ← Lay.add 0
    Lay.link e
    let _ ← Lay.add 0

/-- Whether there is room for a pattern both ways. -/
def fits (a : Shape) : Bool := (a.whole false {}).isSome && (a.whole true {}).isSome

end Shape

end RemoteSearch.Pattern

import RemoteSearch.Pattern.Layout

/-!
# Room for alternatives that are texts

Alternatives that are all texts are laid out as a tree, where texts that begin alike share what they
have in common, as long as no text that ends in between comes before one of them: the order of
alternatives matters, so what comes after the end of a text is kept apart from what came before it.

## Termination

`room` recurses on a bound of the lengths of the texts.
-/

namespace RemoteSearch.Pattern.Layout.Texts

/-- The texts between those that end here. -/
def stretches (l : List (List UInt8)) : List (List (List UInt8)) :=
  l.foldr (fun t acc =>
    match t, acc with
    | [], acc => [] :: acc
    | t, s :: r => (t :: s) :: r
    | t, [] => [[t]]) [[]]

/-- The bytes with which texts begin, each once. -/
def heads (l : List (List UInt8)) : List UInt8 := (l.filterMap List.head?).eraseDups

/-- What follows in the texts that begin with a byte. -/
def under (b : UInt8) (l : List (List UInt8)) : List (List UInt8) :=
  l.filterMap fun t =>
    match t with
    | c :: r => if c = b then some r else none
    | [] => none

/--
How many states there are below a node from which some texts go on, and how many bytes they take
beyond the fixed size. The node is a choice among its stretches and the ends between them. Below a
node where all texts end there is nothing.
-/
def room : Nat → List (List UInt8) → Nat × Nat
  | 0, _ => (0, 0)
  | depth + 1, l =>
    if l.all List.isEmpty then (0, 0)
    else
      -- a text that ends before any goes on counts once
      let l := if l.head? = some [] then [] :: l.dropWhile List.isEmpty else l
      let groups := (stretches l).filter (!·.isEmpty)
      let ends := l.countP List.isEmpty
      let own := groups.map fun g =>
        let n := (heads g).length
        if n = 1 then 0 else rangeSize * n
      let below := groups.flatMap fun g => (heads g).map fun b => room depth (under b g)
      (groups.length + 1 + below.foldl (fun n r => n + r.1) 0,
        own.foldl (· + ·) 0 + choiceSize * (groups.length + ends) +
          below.foldl (fun n r => n + r.2) 0)

/-- Any of some texts. -/
def either (l : List (List UInt8)) : Lay Bool := do
  let (states, extra) := room ((l.map List.length).foldl max 0 + 1) l
  let _ ← Lay.add 0
  Lay.addAll states extra
  pure false

end RemoteSearch.Pattern.Layout.Texts

import RemoteSearch.Fields
import RemoteSearch.Settings.KeyPath

/-!
# Trees of settings

What several sources of settings make together. A later source overwrites texts and goes into
tables.

## Termination

Setting recurses on the steps that are left.
-/

namespace RemoteSearch.Settings

/-- A tree of settings. -/
inductive Tree where
  | nothing
  | text (s : String)
  | table (entries : List (String × Tree))
  | list (items : List Tree)
  deriving Repr, Inhabited

namespace Tree

/-- The entries of a table; anything else has none. -/
def entries : Tree → List (String × Tree)
  | table l => l
  | _ => []

/-- The items of a list; anything else has none. -/
def items : Tree → List Tree
  | list l => l
  | _ => []

/-- Changes the entry of a name, or makes it out of nothing. -/
def modifyEntry (name : String) (f : Tree → Tree) : List (String × Tree) → List (String × Tree)
  | [] => [(name, f nothing)]
  | (n, t) :: r => if n = name then (n, f t) :: r else (n, t) :: modifyEntry name f r

/--
Changes the item at a position. A list that is too short is filled up with nothing, at its start if
the position lies before it.
-/
def modifyItem (n : Int) (f : Tree → Tree) (l : List Tree) : List Tree :=
  let start := if n < 0 then l.length + n else n
  if start < 0 then
    match List.replicate (-start).toNat nothing ++ l with
    | [] => []
    | t :: r => f t :: r
  else
    let i := start.toNat
    (l ++ List.replicate (i + 1 - l.length) nothing).modify i f

/-- Changes the tree at the end of the steps. -/
def modifyAt (f : Tree → Tree) : List KeyStep → Tree → Tree
  | [], t => f t
  | .child name :: r, t => table (modifyEntry name (modifyAt f r) t.entries)
  | .position n :: r, t => list (modifyItem n (modifyAt f r) t.items)

/-- The texts among entries. -/
def texts (l : List (String × Tree)) : Fields :=
  .ofList (l.filterMap fun p =>
    match p.2 with
    | text s => some (p.1, s)
    | _ => none)

/-- The tables among entries. -/
def tables (l : List (String × Tree)) : List (String × List (String × Tree)) :=
  l.filterMap fun p =>
    match p.2 with
    | table e => some (p.1, e)
    | _ => none

end Tree

/-! ## Entries -/

/-- What is put at a place: a text, or the pairs of a section, which go into a table. -/
inductive Matter where
  | text (s : String)
  | pairs (fields : Fields)
  deriving Repr, DecidableEq

/-- Matter, and the steps that lead to its place. -/
structure Entry where
  steps : List KeyStep
  matter : Matter
  deriving Repr, DecidableEq

/-- The entries of a table once the pairs of a section have gone into it. -/
def withTexts (fields : Fields) (l : List (String × Tree)) : List (String × Tree) :=
  fields.foldl (fun l p => Tree.modifyEntry p.1 (fun _ => .text p.2) l) l

/-- What is at a place once matter is put there; what a section does not name stays. -/
def Matter.over : Matter → Tree → Tree
  | text s, _ => .text s
  | pairs fields, t => .table (withTexts fields t.entries)

/-- Puts the matter of an entry at its place. -/
def Entry.place (e : Entry) (t : Tree) : Tree := t.modifyAt e.matter.over e.steps

/-- The tree that entries make, one after another. -/
def treeOf (es : List Entry) : Tree := es.foldl (fun t e => e.place t) (.table [])

end RemoteSearch.Settings

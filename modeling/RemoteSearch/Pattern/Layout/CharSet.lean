import RemoteSearch.Pattern.Layout
import RemoteSearch.Text.Utf8Ranges

/-!
# Room for sets of characters

A set of characters is laid out as states that take the bytes of its members one by one. States
from which the same bytes lead to the same states are shared as far as a store of fixed size
remembers them: it has a place for each hash and keeps there what came last.

Taken forward, the byte sequences come in ascending order and form a tree of which only the branch
in hand is open. A node is closed, and looked up in the store, when the next sequence leaves it.
Taken backward, each sequence is a chain from the end to the start, and chains share what the store
remembers of their beginnings.

## Termination

`closeBelow` recurses on the open nodes, `chain` on the byte ranges of a sequence.
-/

namespace RemoteSearch.Pattern.Layout

open Text (Unicode.Ranges)
open Text.Utf8 (ByteRange byteRanges)

/-! ## The store -/

/-- The hash of some numbers: each is mixed in by an exclusive or and a multiplication. -/
def hash (l : List Nat) : UInt64 :=
  l.foldl (fun h n => (h ^^^ n.toUInt64) * 1099511628211) 14695981039346656037

/-- A store with places for keys and the state that each stands for. -/
structure Store (α : Type) where
  places : Array (Option (α × Nat))

namespace Store

variable {α : Type} [BEq α]

/-- A store without entries. -/
def empty (size : Nat) : Store α := ⟨Array.replicate size none⟩

/-- The place for a hash. -/
def place (s : Store α) (h : UInt64) : Nat := h.toNat % s.places.size

/-- The state that the store remembers for a key. -/
def get? (s : Store α) (h : UInt64) (key : α) : Option Nat :=
  match s.places[s.place h]? with
  | some (some (k, n)) => if k == key then some n else none
  | _ => none

/-- The store with a state for a key, which drives out what was at its place. -/
def insert (s : Store α) (h : UInt64) (key : α) (n : Nat) : Store α :=
  ⟨s.places.setIfInBounds (s.place h) (some (key, n))⟩

end Store

/-! ## Forward -/

/-- A way from a state: the first and the last byte that it takes, and the state it leads to. -/
abbrev Way := Nat × Nat × Nat

/-- A node of the tree in the branch that is open. -/
structure OpenNode where
  /-- The ways that are known, the last first. -/
  ways : List Way := []
  /-- The bytes of the way to the next node of the branch. -/
  last : Option ByteRange := none
  deriving Inhabited

/-- The node once it is known where its last way leads. -/
def OpenNode.settle (n : OpenNode) (next : Nat) : OpenNode :=
  match n.last with
  | some (a, b) => { ways := (a, b, next) :: n.ways }
  | none => n

/-- The tree in the making: the open branch, its deepest node first, and the states laid out. -/
structure Tree where
  branch : List OpenNode
  store : Store (List Way)

/-- The state with some ways, from the store or new. -/
def stateFor (store : Store (List Way)) (ways : List Way) : Lay (Nat × Store (List Way)) := do
  let h := hash (ways.flatMap fun (a, b, n) => [a, b, n])
  match store.get? h ways with
  | some n => pure (n, store)
  | none =>
    let n ← Lay.add (rangeSize * ways.length)
    pure (n, store.insert h ways n)

/-- The tree with the nodes of its branch closed that lie deeper than `depth`. -/
def closeBelow (depth next : Nat) (store : Store (List Way)) : List OpenNode → Lay Tree
  | [] => pure { branch := [], store }
  | n :: r =>
    if depth < r.length then do
      let (next, store) ← stateFor store (n.settle next).ways.reverse
      closeBelow depth next store r
    else pure { branch := n.settle next :: r, store }

/-- How many of the byte ranges are the last ways of the branch, which is given from its root. -/
def sharedDepth : List ByteRange → List OpenNode → Nat
  | r :: rs, n :: ns => if n.last = some r then sharedDepth rs ns + 1 else 0
  | _, _ => 0

/-- The branch with ways on from its deepest node. -/
def extend (branch : List OpenNode) : List ByteRange → List OpenNode
  | [] => branch
  | r :: rs =>
    let branch := match branch with
      | n :: up => { n with last := some r } :: up
      | [] => []
    rs.foldl (fun branch r => { last := some r } :: branch) branch

/-- The tree with one more sequence, which is greater than those before. -/
def addSequence (target : Nat) (t : Tree) (seq : List ByteRange) : Lay Tree := do
  let depth := sharedDepth seq t.branch.reverse
  let t ← closeBelow depth target t.store t.branch
  pure { t with branch := extend t.branch (seq.drop depth) }

/-- How many states the store remembers forward. -/
def treeStoreSize : Nat := 10000

/-- A set of characters taken forward. -/
def forwardSet (seqs : List (List ByteRange)) : Lay Bool := do
  let target ← Lay.add 0
  let t ← seqs.foldlM (addSequence target) { branch := [{}], store := .empty treeStoreSize }
  let t ← closeBelow 0 target t.store t.branch
  match t.branch with
  | n :: _ =>
    let _ ← stateFor t.store n.ways.reverse
    pure false
  | [] => pure false

/-! ## Backward -/

/-- How many states the store remembers backward. -/
def chainStoreSize : Nat := 1000

/-- A chain that ends in a state and takes byte ranges before it, the first of them last. -/
def chain (store : Store Way) (next : Nat) : List ByteRange → Lay (Store Way)
  | [] => pure store
  | (a, b) :: r => do
    let key := (a, b, next)
    let h := hash [next, a, b]
    match store.get? h key with
    | some n => chain store n r
    | none =>
      let n ← Lay.add 0
      chain (store.insert h key n) n r

/-- A set of characters taken backward. -/
def backwardSet (seqs : List (List ByteRange)) : Lay Bool := do
  let _ ← Lay.add 0
  let target ← Lay.add 0
  let _ ← seqs.foldlM (fun store seq => do
    let store ← chain store target seq
    Lay.ways 1
    pure store) (Store.empty chainStoreSize : Store Way)
  pure false

/-- A set of ASCII characters, or of none. -/
def asciiSet (r : Unicode.Ranges) : Lay Bool := do
  let _ ← Lay.add 0
  let _ ← Lay.add (rangeSize * r.pairs.length)
  pure false

/-- One character of a set. -/
def charSet (backward : Bool) (r : Unicode.Ranges) : Lay Bool :=
  if r.isAscii then asciiSet r
  else
    let seqs := byteRanges r
    if backward then backwardSet seqs else forwardSet seqs

end RemoteSearch.Pattern.Layout

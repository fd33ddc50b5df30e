import RemoteSearch.Machine.Options

/-!
# Listing files

The `ls` of a machine, whose output goes to no terminal: a name a line, or a long line for each.
-/

namespace RemoteSearch.Machine

/-- The date of all files in listings. -/
def listingDate : String := "2024-01-15 10:30:00.000000000 +0000"

/-- The date in listings that show no full times. -/
def shortDate : String := "Jan 15  2024"

/-- The long line that a listing shows for an object. -/
def longLine (date path : String) (e : Entry) : String :=
  let (letter, mode, arrow) :=
    match e with
    | .file m _ => ('-', m, "")
    | .directory m => ('d', m, "")
    | .link target => ('l', Mode.ofNat 0o777, s!" -> {target}")
  let links := if e.isDirectory then 2 else 1
  String.ofList (letter :: mode.text) ++ s!" {links} 0 0 {Tree.sizeOf e} {date} {path}{arrow}\n"

/-- Whether a name comes before another in a listing. -/
def nameBefore (a b : String) : Bool := decide (a ≤ b)

/-- The blocks of 1024 bytes that something takes. -/
def blocksOf : Entry → Nat
  | .file _ content => (content.length + 4095) / 4096 * 4
  | .directory _ => 4
  | .link _ => 0

/-- How a listing shows what it finds. -/
structure ListingStyle where
  long : Bool
  date : String
  /-- Names with a dot in front are shown, those of the directory itself and its parent too. -/
  hidden : Bool
  dots : Bool
  itself : Bool
  reversed : Bool
  deriving Repr, DecidableEq, Inhabited

namespace ListingStyle

/-- The style that options ask for. -/
def ofOptions (g : Given) : ListingStyle where
  long := g.has 'l' || g.has 'n' || g.has 'T'
  date := if g.has 'T' then listingDate else shortDate
  hidden := g.has 'a' || g.has 'A'
  dots := g.has 'a'
  itself := g.has 'd'
  reversed := g.has 'r'

/-- The lines for some objects. -/
def render (s : ListingStyle) (objects : List (String × Entry)) : String :=
  let sorted := objects.mergeSort fun a b => nameBefore a.1 b.1
  let sorted := if s.reversed then sorted.reverse else sorted
  String.join (sorted.map fun o => if s.long then longLine s.date o.1 o.2 else o.1 ++ "\n")

/-- The lines for what is in a directory. -/
def showDirectory (s : ListingStyle) (t : Tree) (place : Place) : String :=
  let names := (t.names place).filter fun n => s.hidden || n.toList.head? != some '.'
  let objects := names.filterMap fun n => (t.entry? (place ++ [n])).map (n, ·)
  let dots : List (String × Entry) :=
    if s.dots then [(".", .directory directoryMode), ("..", .directory directoryMode)] else []
  let total := (objects ++ dots).foldl (fun n o => n + blocksOf o.2) 0
  (if s.long then s!"total {total}\n" else "") ++ s.render (dots ++ objects)

end ListingStyle

/-- What lies at a path: long listings do not follow a link, others do. -/
def listed (s : ListingStyle) (p : Process) (path : String) : Except Trouble (Place × Entry) := do
  let followed := p.tree.find p.here path
  match s.long || s.itself, followed with
  | false, .ok f => .ok f
  | _, _ =>
    let place ← p.tree.locate false p.here path
    match p.tree.entry? place with
    | some e => .ok (place, e)
    | none => .error .absent

/-- Runs `ls` with its options. -/
def listObjects (g : Given) (p : Process) : Process :=
  let s := ListingStyle.ofOptions g
  let operands := (if g.operands.isEmpty then ["."] else g.operands).mergeSort nameBefore
  let found := operands.map fun path => (path, listed s p path)
  let p := (if g.operands.isEmpty then ["."] else g.operands).foldl
    (fun p path =>
      match listed s p path with
      | .ok _ => p
      | .error e => (p.complain s!"ls: cannot access '{path}': {e.phrase}\n").finish 2)
    (p.finish 0)
  let isOpened (e : Entry) : Bool := e.isDirectory && !s.itself
  let files := found.filterMap fun f =>
    match f.2 with
    | .ok (_, e) => if isOpened e then none else some (f.1, e)
    | .error _ => none
  let directories := found.filterMap fun f =>
    match f.2 with
    | .ok (place, e) => if isOpened e then some (f.1, place) else none
    | .error _ => none
  let directories := if s.reversed then directories.reverse else directories
  let blocks := directories.map fun d =>
    (if 1 < operands.length then d.1 ++ ":\n" else "") ++ s.showDirectory p.tree d.2
  let blocks := (if files.isEmpty then [] else [s.render files]) ++ blocks
  p.print ("\n".intercalate blocks)

/-- Runs `ls`. -/
def runList (arguments : List String) (p : Process) : Process :=
  withOptions "ls" 2 ['l', 'n', 'a', 'A', 'd', '1', 'r', 'T'] []
    [("--full-time", 'T'), ("--all", 'a')] arguments listObjects p

end RemoteSearch.Machine

import RemoteSearch.Permissions
import RemoteSearch.Text.Blank
import RemoteSearch.Text.Split

/-!
# Trees of files

The files of a machine: regular files, directories and symbolic links, each under the names that
lead to it from the root. Paths are followed name by name as Unix hosts do, through links as well.

## Termination

`walk` ends because each step takes a name from the path, or follows a link, of which it follows no
more than a number.
-/

namespace RemoteSearch.Machine

open Text

/-- Why a path cannot be used. -/
inductive Trouble where
  | absent
  | notDirectory
  | isDirectory
  | nameTooLong
  | tooManyLinks
  | zeroCharacter
  deriving Repr, DecidableEq, Inhabited

/-- What the system calls it, without its number. -/
def Trouble.phrase : Trouble → String
  | absent => "No such file or directory"
  | notDirectory => "Not a directory"
  | isDirectory => "Is a directory"
  | nameTooLong => "File name too long"
  | tooManyLinks => "Too many levels of symbolic links"
  | zeroCharacter => "file name contained an unexpected NUL byte"

/-- The number of the error, if the system has one. -/
def Trouble.number? : Trouble → Option Nat
  | absent => some 2
  | notDirectory => some 20
  | isDirectory => some 21
  | nameTooLong => some 36
  | tooManyLinks => some 40
  | zeroCharacter => none

/-- What is said about the trouble. -/
def Trouble.message (t : Trouble) : String :=
  match t.number? with
  | some n => s!"{t.phrase} (os error {n})"
  | none => t.phrase

/-- The names that lead to a file from the root. -/
abbrev Place : Type := List String

/-- What lies in a place. -/
inductive Entry where
  | file (mode : Mode) (content : List UInt8)
  | directory (mode : Mode)
  | link (target : String)
  deriving Repr, DecidableEq, Inhabited

namespace Entry

/-- Whether it is a directory. -/
def isDirectory : Entry → Bool
  | directory _ => true
  | _ => false

/-- Whether it is a link. -/
def isLink : Entry → Bool
  | link _ => true
  | _ => false

end Entry

/-- All files of a machine, earliest first; the root itself is not among them. -/
structure Tree where
  entries : List (Place × Entry) := []
  deriving Repr, DecidableEq, Inhabited

/-- The mode of directories where nothing else is said. -/
def directoryMode : Mode := .ofNat 0o755

/-- The mode of files where nothing else is said. -/
def fileMode : Mode := .ofNat 0o644

/-- The number of links that are followed for one path. -/
def maxLinks : Nat := 40

/-- The number of bytes that a name may have. -/
def maxName : Nat := 255

/-- The number of bytes that a path may have. -/
def maxPath : Nat := 4095

namespace Tree

/-- What lies in a place. -/
def entry? (t : Tree) (p : Place) : Option Entry :=
  if p.isEmpty then some (.directory directoryMode) else t.entries.lookup p

/-- Whether there is a directory in a place. -/
def hasDirectory (t : Tree) (p : Place) : Bool := (t.entry? p).any Entry.isDirectory

/-- Without what lies in a place. -/
def without (t : Tree) (p : Place) : Tree := ⟨t.entries.filter (·.1 != p)⟩

/-- With something in a place, instead of what lay there. -/
def put (t : Tree) (p : Place) (e : Entry) : Tree :=
  if (t.entries.lookup p).isSome then
    ⟨t.entries.map fun q => if q.1 == p then (p, e) else q⟩
  else ⟨t.entries ++ [(p, e)]⟩

/-- With a directory in a place, unless something lies there. -/
def ensureDirectory (t : Tree) (p : Place) : Tree :=
  if (t.entry? p).isSome then t else t.put p (.directory directoryMode)

/-- With all directories on the way to a place. -/
def ensureParents (t : Tree) (p : Place) : Tree :=
  (List.range p.length).foldl (fun t n => t.ensureDirectory (p.take n)) t

/-- With something in a place, and all directories on the way to it. -/
def plant (t : Tree) (p : Place) (e : Entry) : Tree := (t.ensureParents p).put p e

/-- The names in a directory, in the order in which they came into being. -/
def names (t : Tree) (p : Place) : List String :=
  t.entries.filterMap fun e =>
    if e.1.dropLast == p then e.1.getLast? else none

/-! ## Paths -/

/-- The names of a path. A delimiter at the end leaves an empty name there. -/
def namesOf (path : String) : List String :=
  match split '/' path with
  | "" :: names => names
  | names => names

/-- Where the walk along a path begins. -/
def startOf (here : Place) (path : String) : Place :=
  if path.toList.head? = some '/' then [] else here

/--
The place that names lead to, beginning somewhere. A link at the very end is followed if so wished;
`links` is the number of links that may still be followed.
-/
def walk (t : Tree) (followLast : Bool) (links : Nat) (here : Place) (names : List String) :
    Except Trouble Place :=
  match names with
  | [] => .ok here
  | name :: rest =>
    if !t.hasDirectory here then .error .notDirectory
    else if name == "" || name == "." then walk t followLast links here rest
    else if name == ".." then walk t followLast links here.dropLast rest
    else if maxName < name.utf8ByteSize then .error .nameTooLong
    else
      let there := here ++ [name]
      match t.entry? there with
      | none => .error .absent
      | some (.link target) =>
        if rest.isEmpty && !followLast then .ok there
        else
          match links with
          | 0 => .error .tooManyLinks
          | links + 1 => walk t followLast links (startOf here target) (namesOf target ++ rest)
      | some _ => walk t followLast links there rest
termination_by (links, names.length)

/-- The place of a path that is taken from a directory. -/
def locate (t : Tree) (followLast : Bool) (here : Place) (path : String) : Except Trouble Place :=
  if path.toList.contains '\x00' then .error .zeroCharacter
  else if path.isEmpty then .error .absent
  else if maxPath < path.utf8ByteSize then .error .nameTooLong
  else t.walk followLast maxLinks (startOf here path) (namesOf path)

/-- The place of a path and what lies there, links followed. -/
def find (t : Tree) (here : Place) (path : String) : Except Trouble (Place × Entry) := do
  let p ← t.locate true here path
  match t.entry? p with
  | some e => .ok (p, e)
  | none => .error .absent

/-- The path of a place. -/
def pathOf (p : Place) : String := if p.isEmpty then "/" else String.join (p.map ("/" ++ ·))

/-! ## Use of files -/

/-- The number of bytes that a directory shows. -/
def directorySize : Nat := 4096

/-- The size of what lies somewhere. -/
def sizeOf : Entry → Nat
  | .file _ content => content.length
  | .directory _ => directorySize
  | .link target => target.utf8ByteSize

/-- The content of a file. -/
def read (t : Tree) (here : Place) (path : String) : Except Trouble (List UInt8) := do
  match (← t.find here path).2 with
  | .file _ content => .ok content
  | _ => .error .isDirectory

/-- The path without delimiters at its end, and whether there were any. -/
def bareLast (path : String) : String × Bool :=
  let l := dropEndWhile (· == '/') path.toList
  if l.isEmpty then (path, false) else (String.ofList l, l.length < path.length)

/-- Removes a file or a link. -/
def remove (t : Tree) (here : Place) (path : String) : Except Trouble Tree := do
  let (bare, closed) := bareLast path
  if maxPath < path.utf8ByteSize then .error .nameTooLong
  let p ← t.locate false here bare
  match t.entry? p with
  | none => .error .absent
  | some (.directory _) => .error .isDirectory
  | some _ => if closed then .error .notDirectory else .ok (t.without p)

/-- Writes a file, which is made if it is not there. -/
def write (t : Tree) (here : Place) (path : String) (content : List UInt8) (append : Bool) :
    Except Trouble Tree :=
  match t.find here path with
  | .ok (p, .file mode old) =>
    .ok (t.put p (.file mode (if append then old ++ content else content)))
  | .ok _ => .error .isDirectory
  | .error .absent => do
    let names := namesOf path
    let parent ← t.walk true maxLinks (startOf here path) names.dropLast
    match names.getLast? with
    | some name =>
      if t.hasDirectory parent then .ok (t.put (parent ++ [name]) (.file fileMode content))
      else .error .notDirectory
    | none => .error .absent
  | .error e => .error e

end Tree

end RemoteSearch.Machine

import RemoteSearch.Compiled
import RemoteSearch.Query
import RemoteSearch.Unix.Awk
import RemoteSearch.Unix.Depth
import RemoteSearch.Unix.Dialect
import RemoteSearch.Unix.Glob

/-!
# Searches on Unix hosts

A search is a pipeline: `find` lists paths one per line, filters drop some of them, and a loop at
the end lists each object that is left. Texts of the query stand in it as single arguments.

When a constraint on directories governs, the directories are looked for first, without a limit of
depth, and a second `find` runs in each of them; the limit then counts from there.
-/

namespace RemoteSearch.Unix

open Piece

/-- A text of the query as an argument, with the option it belongs to in front. -/
def option (name text : String) : List Piece := [fixed s!" {name} ", arg text]

/-- What an option asks for, nothing if it is not there. -/
def optionally {α : Type} (o : Option α) (f : α → List Piece) : List Piece :=
  match o with
  | some a => f a
  | none => []

/-- The beginning of a `find`, up to what it tests. -/
def findHead (q : Query) (start : Piece) (maxDepth : Option Nat) : List Piece :=
  fixed "find" :: (if q.followLinks then [fixed " -L"] else []) ++ [fixed " ", start] ++
    optionally maxDepth (fun n => [fixed s!" -maxdepth {n}"]) ++
    (if q.xdev then [fixed " -xdev"] else []) ++
    optionally q.fsType (option "-fstype")

/-- The test for the kind of object. -/
def kindTest (k : SearchKind) : Piece := fixed s!" -type {k.letter}"

/-- The tests for a literal last name. -/
def nameTests (f : NameFilter) : List Piece :=
  optionally f.equals (fun s => option "-name" (Glob.escape s)) ++
    optionally f.differs (fun s => option "! -name" (Glob.escape s))

/-- The filter for a pattern of the last name. -/
def nameFilter (f : NameFilter) : List Piece :=
  optionally f.pattern fun p => option "| awk -F/" (Awk.lastNameProgram p.source)

/-- The filter that keeps to a number of levels below the root. -/
def depthFilter (root : String) (depth : Option Nat) : List Piece :=
  optionally depth fun n => [fixed s!" | {(DepthFilter.below root n).render}"]

/-- The filter that keeps to a number of levels below the directory of the loop. -/
def relativeDepthFilter (depth : Option Nat) : List Piece :=
  optionally depth fun n =>
    [fixed (" | awk -F/ -v d=\"$d\" '" ++ DepthFilter.relativeProgram n ++ "'")]

/-- The filter for a constraint on the whole path. -/
def pathFilter : PathFilter → List Piece
  | .literal path => option "| grep -Fx" path
  | .pattern p => option "| grep -E" p.source

/-- The limit of depth as `find` takes it, and as it is left for a filter. -/
def splitDepth (d : Dialect) (depth : Option Nat) : Option Nat × Option Nat :=
  if d.nativeDepth then (depth, none) else (none, depth)

/-- The pipeline up to the paths that are found. -/
def findPaths (d : Dialect) (q : Query) : List Piece :=
  let root := q.normalizedRoot '/'
  let (native, counted) := splitDepth d q.depth
  match q.branch, q.kind with
  | .path f, kind =>
    findHead q (arg root) native ++ kindTest kind :: pathFilter f ++ depthFilter root counted
  | .dirname f, .directory =>
    findHead q (arg root) native ++ kindTest .directory :: option "| grep -E" f.patternSource ++
      depthFilter root counted
  | .dirname f, kind =>
    findHead q (arg root) none ++ kindTest .directory :: option "| grep -E" f.patternSource ++
      fixed " | while IFS= read -r d; do " :: findHead q (fixed "\"$d\"") native ++
      kindTest kind :: nameTests q.basename ++ relativeDepthFilter counted ++
      fixed "; done" :: nameFilter q.basename
  | .basename f, kind =>
    findHead q (arg root) native ++ kindTest kind :: nameTests f ++ nameFilter f ++
      depthFilter root counted

/-- The loop that lists each object. -/
def listEach (d : Dialect) : Piece :=
  fixed s!" | while IFS= read -r f; do {d.listCommand} \"$f\"; done"

/-- The whole pipeline. -/
def searchPieces (d : Dialect) (q : Query) : List Piece := findPaths d q ++ [listEach d]

/-- The command that runs a search. -/
def compile (d : Dialect) (q : Query) : Compiled :=
  .ofCommand (Shell.posix.render (searchPieces d q)) false

/-- The command that lists one object. -/
def statCommand (d : Dialect) (path : String) : String :=
  Shell.posix.render [fixed d.listCommand, fixed " ", arg path]

end RemoteSearch.Unix

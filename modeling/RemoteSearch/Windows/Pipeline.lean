import RemoteSearch.Compiled
import RemoteSearch.Flavor
import RemoteSearch.Query

/-!
# Searches on Windows hosts

A search calls the commands of the helper module. Texts of the query stand in it as single
arguments. A search cannot follow links and cannot look for links, and a query that asks for either
is refused.

When a constraint on directories governs a search for files, the directories are looked for first,
without a limit of depth, and are piped to the search for files; the limit then counts from each of
them.
-/

namespace RemoteSearch.Windows

open Piece

/-- The pattern for a constraint on the last name: no match of the excluded name may begin where
the match begins. -/
def nameSource (f : NameFilter) : Option String :=
  match f.differs, f.pattern with
  | some name, some p => some s!"(?!^{Pattern.escape name}$){p.source}"
  | some name, none => some s!"(?!^{Pattern.escape name}$)(^.*$)"
  | none, some p => some p.source
  | none, none => none

/-- The parameters for the last name. -/
def nameParameters (f : NameFilter) : List Piece :=
  (match f.equals with
    | some name => [fixed " -LiteralFilename ", arg name]
    | none => []) ++
  (match nameSource f with
    | some source => [fixed " -Filename ", arg source]
    | none => [])

/-- The start of a call: command and root. -/
def call (command root : String) : List Piece := [fixed s!"{command} -Path ", arg root]

/-- The parameter for a pattern of the path. -/
def patternParameter (f : PathFilter) : List Piece := [fixed " -Pattern ", arg f.patternSource]

/-- A limit of depth as a parameter takes it, with -1 for none. -/
def depthNumber : Option Nat → Int
  | none => -1
  | some n => n

/-- The calls up to the limit of depth. -/
def findObjects (q : Query) : List Piece :=
  let root := q.normalizedRoot '\\'
  match q.branch, q.kind with
  | .path f, .directory => call "Find-Directories" root ++ patternParameter f
  | .path f, _ => call "Find-Files" root ++ patternParameter f
  | .dirname f, .directory => call "Find-Directories" root ++ patternParameter f
  | .dirname f, _ =>
    call "Find-Directories" root ++ patternParameter f ++ fixed " -Depth -1 | Find-Files" ::
      nameParameters q.basename
  | .basename _, .directory => call "Find-Directories" root
  | .basename f, _ => call "Find-Files" root ++ nameParameters f

/-- The whole command. -/
def searchPieces (q : Query) : List Piece :=
  findObjects q ++ [fixed s!" -Depth {depthNumber q.depth} | Print-FileInfo"]

/-- The error for what the helper cannot do. -/
def unsupported (what : String) : Error := .search (.unsupported Flavor.windows.name what)

/-- The command that runs a search. -/
def compile (q : Query) : Except Error Compiled :=
  if q.followLinks then .error (unsupported "following links")
  else if q.kind = .link then .error (unsupported "link file type")
  else .ok (.ofCommand (Shell.powershell.render (searchPieces q)) true)

/-- The command that shows one object. -/
def statCommand (path : String) : String :=
  Shell.powershell.render
    [fixed "Get-Item -LiteralPath ", arg path, fixed " -Force | Print-FileInfo"]

end RemoteSearch.Windows

import RemoteSearch.Gzip.Basic
import RemoteSearch.Machine.Options
import RemoteSearch.Text.Numeral

/-!
# Tools for files

The commands that make, copy, move and remove files, and the one that compresses them. A tool goes
on with its next operand after one that it complains of.
-/

namespace RemoteSearch.Machine

open Text

namespace Tree

/-- All that lies in a place and below it, by the names from there on. -/
def below (t : Tree) (p : Place) : List (Place × Entry) :=
  t.entries.filterMap fun e =>
    if p.isPrefixOf e.1 then some (e.1.drop p.length, e.2) else none

/-- Without what lies in a place and below it. -/
def withoutAll (t : Tree) (p : Place) : Tree := ⟨t.entries.filter fun e => !p.isPrefixOf e.1⟩

/-- The place where a path would make something: the directory must be there. -/
def newPlace (t : Tree) (here : Place) (path : String) : Except Trouble Place := do
  let (bare, _) := bareLast path
  match t.locate false here bare with
  | .ok p => .ok p
  | .error .absent =>
    let names := namesOf bare
    let parent ← t.walk true maxLinks (startOf here bare) names.dropLast
    if !t.hasDirectory parent then .error .notDirectory
    else
      match names.getLast? with
      | some name => if name.isEmpty then .error .absent else .ok (parent ++ [name])
      | none => .error .absent
  | .error e => .error e

/-- Copies what lies in a place and below it to another. -/
def copyAll (t : Tree) (source target : Place) : Tree :=
  (t.below source).foldl (fun t e => t.put (target ++ e.1) e.2) t

end Tree

/-- The number of bytes after which no one reads what would go on without end. -/
def endlessSize : Nat := 1024 * 1024

/-- The number of bytes that are written at a time. -/
def pieceSize : Nat := 8 * 1024

/-- What would repeat some bytes without end, in pieces. -/
def endlessPieces (bytes : List UInt8) : List (List UInt8) :=
  let times := pieceSize / bytes.length + 1
  List.replicate (endlessSize / pieceSize) (List.replicate times bytes).flatten

/-- What the zero device gives. -/
def zeros : List (List UInt8) := endlessPieces [0]

/-- The content of a file; that of the null device is empty. -/
def Process.readFile (p : Process) (path : String) : Except Trouble (List UInt8) :=
  if path == "/dev/null" then .ok []
  else if path == "/dev/zero" then .ok zeros.flatten
  else p.tree.read p.here path

/-- A tool complains of an operand and goes on. -/
def complainOf (text : String) (p : Process) : Process := (p.complain (text ++ "\n")).finish 1

/-- The last name of a path, without delimiters after it. -/
def baseName (path : String) : String :=
  let l := dropEndWhile (· == '/') path.toList
  if l.isEmpty then (if path.isEmpty then "" else "/")
  else String.ofList (l.reverse.takeWhile (· != '/')).reverse

/-- The path without its last name. -/
def parentName (path : String) : String :=
  let l := dropEndWhile (· == '/') path.toList
  let parent := (l.reverse.dropWhile (· != '/')).reverse
  if l.isEmpty then (if path.isEmpty then "." else "/")
  else if parent.isEmpty then "."
  else
    let bare := dropEndWhile (· == '/') parent
    if bare.isEmpty then "/" else String.ofList bare

/-! ## Directories -/

/-- Makes a directory. -/
def makeDirectory (parents : Bool) (p : Process) (path : String) : Process :=
  let trouble (phrase : String) : Process :=
    complainOf s!"mkdir: cannot create directory '{path}': {phrase}" p
  if parents then
    let l := path.toList
    let starts := (List.range l.length).filterMap fun n =>
      if l[n]? = some '/' ∧ n ≠ 0 then some (String.ofList (l.take n)) else none
    let step (r : Except Trouble Tree) (path : String) : Except Trouble Tree := do
      let t ← r
      match t.find p.here path with
      | .ok (_, .directory _) => .ok t
      | .ok _ => .error .notDirectory
      | .error .absent => .ok (t.put (← t.newPlace p.here path) (.directory directoryMode))
      | .error e => .error e
    match (starts ++ [path]).foldl step (.ok p.tree) with
    | .ok tree => { p with tree }
    | .error e => trouble e.phrase
  else
    match p.tree.newPlace p.here path with
    | .error e => trouble e.phrase
    | .ok place =>
      if (p.tree.entry? place).isSome then trouble "File exists"
      else { p with tree := p.tree.put place (.directory directoryMode) }

/-- Runs `mkdir`. -/
def runMakeDirectory (arguments : List String) (p : Process) : Process :=
  withOptions "mkdir" 1 ['p', 'v'] ['m'] [("--parents", 'p')] arguments
    (fun g p =>
      if g.operands.isEmpty then missingOperand "mkdir" p
      else g.operands.foldl (makeDirectory (g.has 'p')) (p.finish 0))
    p

/-- Removes an empty directory. -/
def removeDirectory (p : Process) (path : String) : Process :=
  let trouble (phrase : String) := complainOf s!"rmdir: failed to remove '{path}': {phrase}" p
  match p.tree.locate false p.here (Tree.bareLast path).1 with
  | .error e => trouble e.phrase
  | .ok place =>
    match p.tree.entry? place with
    | some (.directory _) =>
      if (p.tree.names place).isEmpty then { p with tree := p.tree.without place }
      else trouble "Directory not empty"
    | some _ => trouble Trouble.notDirectory.phrase
    | none => trouble Trouble.absent.phrase

/-- Runs `rmdir`. -/
def runRemoveDirectory (arguments : List String) (p : Process) : Process :=
  withOptions "rmdir" 1 ['p', 'v'] [] [] arguments
    (fun g p =>
      if g.operands.isEmpty then missingOperand "rmdir" p
      else g.operands.foldl removeDirectory (p.finish 0))
    p

/-! ## Files -/

/-- Removes a file, or a directory with all that is in it. -/
def removeFile (g : Given) (p : Process) (path : String) : Process :=
  let trouble (phrase : String) := complainOf s!"rm: cannot remove '{path}': {phrase}" p
  match p.tree.remove p.here path with
  | .ok tree => { p with tree }
  | .error .isDirectory =>
    if g.has 'r' || g.has 'R' then
      match p.tree.locate false p.here (Tree.bareLast path).1 with
      | .ok place => { p with tree := p.tree.withoutAll place }
      | .error e => trouble e.phrase
    else trouble Trouble.isDirectory.phrase
  | .error e =>
    if g.has 'f' && (e == .absent || e == .notDirectory) then p else trouble e.phrase

/-- Runs `rm`. -/
def runRemove (arguments : List String) (p : Process) : Process :=
  withOptions "rm" 1 ['r', 'R', 'f', 'i', 'v'] [] [("--recursive", 'r'), ("--force", 'f')] arguments
    (fun g p =>
      if g.operands.isEmpty then
        if g.has 'f' then p.finish 0 else missingOperand "rm" p
      else g.operands.foldl (removeFile g) (p.finish 0))
    p

/-- Makes an empty file, unless something is there. -/
def touchFile (p : Process) (path : String) : Process :=
  let trouble (e : Trouble) := complainOf s!"touch: cannot touch '{path}': {e.phrase}" p
  match p.tree.find p.here path with
  | .ok _ => p
  | .error .absent =>
    match p.tree.write p.here path [] false with
    | .ok tree => { p with tree }
    | .error e => trouble e
  | .error e => trouble e

/-- Runs `touch`. -/
def runTouch (arguments : List String) (p : Process) : Process :=
  withOptions "touch" 1 ['a', 'c', 'm'] ['d', 'r', 't'] [] arguments
    (fun g p =>
      if g.operands.isEmpty then
        refuse "touch" "missing file operand" 1 p
      else g.operands.foldl touchFile (p.finish 0))
    p

/-- The place that a file gets when it is put at a path: in it, if there is a directory. -/
def targetPlace (p : Process) (source target : String) : Except Trouble Place :=
  match p.tree.find p.here target with
  | .ok (place, .directory _) => .ok (place ++ [baseName source])
  | _ => p.tree.newPlace p.here target

/-- Copies one file, or a directory with all that is in it. -/
def copyFile (g : Given) (target : String) (p : Process) (source : String) : Process :=
  match p.tree.find p.here source with
  | .error e => complainOf s!"cp: cannot stat '{source}': {e.phrase}" p
  | .ok (place, e) =>
    if e.isDirectory && !(g.has 'r' || g.has 'R' || g.has 'a') then
      complainOf s!"cp: -r not specified; omitting directory '{source}'" p
    else
      match targetPlace p source target with
      | .ok there => { p with tree := p.tree.copyAll place there }
      | .error e =>
        let kind := if e == .absent then "regular file" else "file"
        complainOf s!"cp: cannot create {kind} '{target}': {e.phrase}" p

/-- Moves one file or directory. -/
def moveFile (target : String) (p : Process) (source : String) : Process :=
  let found := do
    let place ← p.tree.locate false p.here source
    match p.tree.entry? place with
    | some _ => .ok place
    | none => .error Trouble.absent
  match found with
  | .error e => complainOf s!"mv: cannot stat '{source}': {e.phrase}" p
  | .ok place =>
    match targetPlace p source target with
    | .ok there =>
      if there = place then
        complainOf s!"mv: '{source}' and '{target}' are the same file" p
      else { p with tree := ((p.tree.withoutAll there).copyAll place there).withoutAll place }
    | .error e => complainOf s!"mv: cannot move '{source}' to '{target}': {e.phrase}" p

/-- Runs a tool that puts its first operands where the last one says. -/
def withTarget (tool : String) (body : String → Process → String → Process) (g : Given)
    (p : Process) : Process :=
  match g.operands.reverse with
  | [] => refuse tool "missing file operand" 1 p
  | [only] => refuse tool s!"missing destination file operand after '{only}'" 1 p
  | target :: sources =>
    let isDirectory := (p.tree.find p.here target).toOption.any fun f => f.2.isDirectory
    if 1 < sources.length && !isDirectory then
      (p.complain s!"{tool}: target '{target}': No such file or directory\n").finish 1
    else sources.reverse.foldl (body target) (p.finish 0)

/-- Runs `cp`. -/
def runCopy (arguments : List String) (p : Process) : Process :=
  withOptions "cp" 1 ['r', 'R', 'a', 'f', 'p', 'v'] [] [("--recursive", 'r')] arguments
    (fun g p => withTarget "cp" (copyFile g) g p) p

/-- Runs `mv`. -/
def runMove (arguments : List String) (p : Process) : Process :=
  withOptions "mv" 1 ['f', 'n', 'v'] [] [("--force", 'f')] arguments
    (fun g p => withTarget "mv" moveFile g p) p

/-- Makes a link. -/
def linkFile (g : Given) (target : String) (p : Process) (source : String) : Process :=
  let kind := if g.has 's' then "symbolic" else "hard"
  match targetPlace p source target with
  | .error e => complainOf s!"ln: failed to create {kind} link '{target}': {e.phrase}" p
  | .ok there =>
    if (p.tree.entry? there).isSome && !g.has 'f' then
      complainOf s!"ln: failed to create {kind} link '{target}': File exists" p
    else if g.has 's' then { p with tree := p.tree.put there (.link source) }
    else
      match p.tree.find p.here source with
      | .ok (_, e) => { p with tree := p.tree.put there e }
      | .error e => complainOf s!"ln: failed to access '{source}': {e.phrase}" p

/-- Runs `ln`. -/
def runLink (arguments : List String) (p : Process) : Process :=
  withOptions "ln" 1 ['s', 'f', 'n', 'v'] [] [("--symbolic", 's'), ("--force", 'f')] arguments
    (fun g p =>
      let g : Given :=
        match g.operands with
        | [only] => { g with operands := [only, "."] }
        | _ => g
      withTarget "ln" (linkFile g) g p)
    p

/-- Gives a file another mode. -/
def changeMode (mode : Nat) (p : Process) (path : String) : Process :=
  match p.tree.find p.here path with
  | .error e => complainOf s!"chmod: cannot access '{path}': {e.phrase}" p
  | .ok (place, .file _ content) =>
    { p with tree := p.tree.put place (.file (.ofNat mode) content) }
  | .ok (place, .directory _) => { p with tree := p.tree.put place (.directory (.ofNat mode)) }
  | .ok _ => p

/-- The mode that a text in octal digits gives, or that makes a file one to run. -/
def modeOf? (text : String) : Option Nat :=
  let l := text.toList
  if text == "+x" || text == "a+x" then some 0o755
  else if !l.isEmpty && l.length ≤ 4 && l.all (fun c => '0' ≤ c && c ≤ '7') then
    some (l.foldl (fun n c => 8 * n + (c.toNat - 48)) 0)
  else none

/-- Runs `chmod`. -/
def runChangeMode (arguments : List String) (p : Process) : Process :=
  match arguments with
  | [] => missingOperand "chmod" p
  | [only] => refuse "chmod" s!"missing operand after '{only}'" 1 p
  | mode :: paths =>
    match modeOf? mode with
    | some n => paths.foldl (changeMode n) (p.finish 0)
    | none => refuse "chmod" s!"invalid mode: '{mode}'" 1 p

/-- Shows where a link leads. -/
def showLink (p : Process) (path : String) : Process :=
  match (p.tree.locate false p.here path).toOption.bind p.tree.entry? with
  | some (.link target) => p.print (target ++ "\n")
  | _ => p.finish 1

/-- Runs `readlink`. -/
def runReadLink (arguments : List String) (p : Process) : Process :=
  withOptions "readlink" 1 ['f', 'e', 'm', 'n'] [] [] arguments
    (fun g p =>
      if g.operands.isEmpty then missingOperand "readlink" p
      else if g.has 'f' || g.has 'e' || g.has 'm' then
        g.operands.foldl
          (fun p path =>
            match p.tree.locate true p.here path with
            | .ok place => p.print (Tree.pathOf place ++ "\n")
            | .error _ => p.finish 1)
          (p.finish 0)
      else g.operands.foldl showLink (p.finish 0))
    p

/-! ## Compression -/

/-- Runs `gzip`, which replaces a file by its compressed form. -/
def runGzip (arguments : List String) (p : Process) : Process :=
  match arguments with
  | ["-f", path] =>
    match p.tree.read p.here path with
    | .error e => (p.complain s!"gzip: {path}: {e.phrase}\n").finish 1
    | .ok content =>
      let written := do
        let tree ← p.tree.write p.here (path ++ ".gz") (Gzip.pack content) false
        tree.remove p.here path
      match written with
      | .ok tree => { p with tree }.finish 0
      | .error e => (p.complain s!"gzip: {path}: {e.phrase}\n").finish 1
  | _ => (p.complain "gzip: invalid option\n").finish 1

end RemoteSearch.Machine

import RemoteSearch.Machine.Expansion
import RemoteSearch.Machine.FileTools

/-!
# Redirections

Where descriptors lead while a command runs: to files, to where others lead, to documents, or
nowhere. A redirection that cannot be made keeps its command from running.
-/

namespace RemoteSearch.Machine

open Text

/-- Why a file cannot be opened. -/
def openTrouble (e : Trouble) : String :=
  match e with
  | .absent => "No such file"
  | .notDirectory => "No such file"
  | e => e.phrase

/-- Why a file cannot be made. -/
def createTrouble (e : Trouble) : String :=
  match e with
  | .absent => "Directory nonexistent"
  | .notDirectory => "Directory nonexistent"
  | e => e.phrase

/-- The descriptor that a device stands for. -/
def deviceDescriptor? (path : String) : Option Nat :=
  [("/dev/stdin", 0), ("/dev/stdout", 1), ("/dev/stderr", 2), ("/dev/fd/0", 0), ("/dev/fd/1", 1),
    ("/dev/fd/2", 2)].lookup path

/-- Lets a descriptor lead to where another one does. -/
def pointLike (descriptor other : Nat) (p : Process) : Except Process Process :=
  match p.table.lookup other with
  | some k => .ok (p.point descriptor (some k))
  | none => .error ((p.warn s!"{other}: Bad file descriptor").finish 2)

/-- Opens a file for reading. -/
def openForReading (descriptor : Nat) (path : String) (p : Process) : Except Process Process :=
  if path == "/dev/null" then .ok (p.openStream descriptor .nothing)
  else if path == "/dev/zero" then
    .ok (p.openStream descriptor (.source (zeros.map (⟨0, p.job, ·⟩)) (some 0) .file))
  else
    match deviceDescriptor? path with
    | some d => pointLike descriptor d p
    | none =>
      match p.tree.find p.here path with
      | .ok (_, .file _ content) =>
        .ok (p.openStream descriptor (.source [⟨0, p.job, content⟩] (some 0) .file))
      | .ok _ => .ok (p.openStream descriptor (.source [] (some 0) .file))
      | .error e => .error ((p.warn s!"cannot open {path}: {openTrouble e}").finish 2)

/-- Opens a file for writing: without what it held, or at its end, or over it. -/
def openForWriting (descriptor : Nat) (path : String) (keeps appends : Bool) (p : Process) :
    Except Process Process :=
  if path == "/dev/null" then .ok (p.openStream descriptor .nothing)
  else
    match deviceDescriptor? path with
    | some d => pointLike descriptor d p
    | none =>
      let opened := do
        let tree ← p.tree.write p.here path [] keeps
        .ok (tree, (← tree.find p.here path).1)
      match opened with
      | .ok (tree, place) =>
        .ok ({ p with tree }.openStream descriptor (.file place 0 appends))
      | .error e => .error ((p.warn s!"cannot create {path}: {createTrouble e}").finish 2)

/-- Whether there is a file at a path. -/
def isFile (p : Process) (path : String) : Bool :=
  match p.tree.find p.here path with
  | .ok (_, .file ..) => true
  | _ => false

/-- Makes a redirection, unless something keeps it from being made. -/
def redirect (e : Engine) (r : Redirection) (p : Process) : Except Process Process :=
  let withPath (w : Word) (body : String → Process → Except Process Process) :
      Except Process Process :=
    let (path, p) := expandText e w p
    if p.halt.isSome then .error p else body path p
  match r.target with
  | .read w => withPath w (openForReading r.descriptor)
  | .write w =>
    withPath w fun path p =>
      if p.hasOption 'C' && isFile p path then
        .error ((p.warn s!"cannot create {path}: File exists").finish 2)
      else openForWriting r.descriptor path false false p
  | .replace w => withPath w fun path p => openForWriting r.descriptor path false false p
  | .append w => withPath w fun path p => openForWriting r.descriptor path true true p
  | .readWrite w => withPath w fun path p => openForWriting r.descriptor path true false p
  | .same w =>
    withPath w fun text p =>
      match text.toList with
      | ['-'] => .ok (p.point r.descriptor none)
      | [c] =>
        if c.isDigit then pointLike r.descriptor (c.toNat - 48) p
        else .error (p.fail "Syntax error: Bad fd number")
      | _ => .error (p.fail "Syntax error: Bad fd number")
  | .document w =>
    withPath w fun text p =>
      let content : Chunk := ⟨0, p.job, Utf8.encodeString text⟩
      .ok (p.openStream r.descriptor (.source [content] (some 0) .pipe))

/-- Makes redirections in their order. -/
def redirectAll (e : Engine) (rs : List Redirection) (p : Process) : Except Process Process :=
  rs.foldlM (fun p r => redirect e r p) p

/-- Lets the redirected descriptors lead to where they led before. -/
def undo (rs : List Redirection) (table : List (Nat × Nat)) (p : Process) : Process :=
  rs.foldl (fun p r => p.point r.descriptor (table.lookup r.descriptor)) p

/-- Goes on with the descriptors as they were, unless nothing follows in the shell. -/
def afterRedirection (rs : List Redirection) (p q : Process) : Process :=
  if p.lasting && q.traps.isEmpty then q else undo rs p.table q

/-- Runs something with redirections. -/
def withRedirections (e : Engine) (rs : List Redirection) (body : Process → Process)
    (p : Process) : Process :=
  match redirectAll e rs p with
  | .ok q => afterRedirection rs p (body q)
  | .error q => undo rs p.table q

end RemoteSearch.Machine

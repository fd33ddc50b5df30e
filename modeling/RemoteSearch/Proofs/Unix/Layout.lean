import RemoteSearch.Proofs.Shell.Reading
import RemoteSearch.Unix.Pipeline

/-!
# Layouts of commands

What a POSIX shell makes of the command for a query. `layout` is the list of its words and operators
with places left open for texts, and depends only on the `Shape` of the query: which constraint
governs, what the flags are and which fields are there. `intended` is the text for each place.

`tokens?_compile`: the command is read as its layout, with each text in its place as one word.
-/

namespace RemoteSearch.Unix

open Shell

/-! ## Shapes -/

/-- The branch of a query, as far as it decides about the words of the command. -/
inductive Arm where
  /-- A path governs, which is literal or a pattern. -/
  | path (literal : Bool)
  /-- A directory governs a search for directories. -/
  | directories
  /-- A directory governs a search for something else, which runs in each directory. -/
  | nested
  /-- Constraints on names govern. -/
  | names
  deriving Repr, DecidableEq

/-- The branch of a query. -/
def arm (q : Query) : Arm :=
  match q.branch, q.kind with
  | .path (.literal _), _ => .path true
  | .path (.pattern _), _ => .path false
  | .dirname _, .directory => .directories
  | .dirname _, _ => .nested
  | .basename _, _ => .names

/-- Whether the command has anything about names. -/
def Arm.takesNames : Arm → Bool
  | .path _ | .directories => false
  | .nested | .names => true

/-- The branch of a query, its flags, and which of its fields are there. -/
structure Shape where
  arm : Arm
  followLinks : Bool
  xdev : Bool
  hasDepth : Bool
  hasFsType : Bool
  hasEquals : Bool
  hasDiffers : Bool
  hasPattern : Bool
  deriving Repr, DecidableEq

/-- The shape of a query. -/
def shape (q : Query) : Shape where
  arm := arm q
  followLinks := q.followLinks
  xdev := q.xdev
  hasDepth := q.depth.isSome
  hasFsType := q.fsType.isSome
  hasEquals := q.basename.equals.isSome
  hasDiffers := q.basename.differs.isSome
  hasPattern := q.basename.pattern.isSome

/-! ## Layouts -/

/-- The texts of a query that may stand in its command. -/
inductive Hole where
  | root
  | fsType
  | kind
  | path
  | dirname
  | equals
  | differs
  | nameProgram
  /-- The limit of depth as `find` takes it. -/
  | depth
  /-- The program that counts slashes from the root on. -/
  | depthProgram
  /-- The program that counts slashes from the directory of the loop on. -/
  | relativeProgram
  deriving Repr, DecidableEq

/-- A place in a command: a word or operator that is always the same, or one for a text. -/
inductive Slot where
  | token (t : Token)
  | text (h : Hole)
  deriving Repr, DecidableEq

/-- A word that stands for itself. -/
def word (s : String) : Slot := .token (bareWord s.toList)

/-- The sign between two steps of a pipeline. -/
def bar : Slot := .token (.operator ['|'])

/-- The sign between two commands. -/
def semicolon : Slot := .token (.operator [';'])

/-- The value of a variable as one word. -/
def value (variableName : Char) : Slot := .token (.word [.parameter [variableName] true])

/-- Places that are there or not. -/
def onlyIf (b : Bool) (l : List Slot) : List Slot := if b then l else []

@[simp] theorem onlyIf_true (l : List Slot) : onlyIf true l = l := rfl

@[simp] theorem onlyIf_false (l : List Slot) : onlyIf false l = [] := rfl

/-- The beginning of a `find`, up to what it tests. -/
def findLayout (s : Shape) (start : Slot) (limited : Bool) : List Slot :=
  word "find" :: onlyIf s.followLinks [word "-L"] ++ [start] ++
    onlyIf limited [word "-maxdepth", .text .depth] ++
    onlyIf s.xdev [word "-xdev"] ++
    onlyIf s.hasFsType [word "-fstype", .text .fsType]

/-- The tests for literal last names. -/
def namesLayout (s : Shape) : List Slot :=
  onlyIf s.hasEquals [word "-name", .text .equals] ++
    onlyIf s.hasDiffers [word "!", word "-name", .text .differs]

/-- A step that keeps the lines in which `grep` finds a text. -/
def grepLayout (mode : String) (h : Hole) : List Slot := [bar, word "grep", word mode, .text h]

/-- A step that keeps the lines that a program of `awk` takes. -/
def awkLayout (h : Hole) : List Slot := [bar, word "awk", word "-F/", .text h]

/-- A step that keeps to a number of levels below the directory of the loop. -/
def relativeLayout : List Slot :=
  [bar, word "awk", word "-F/", word "-v",
    .token (.word [.bare 'd', .bare '=', .parameter ['d'] true]), .text .relativeProgram]

/-- The start of a loop over lines. -/
def loopLayout (variableName : Char) : List Slot :=
  [bar, word "while", word "IFS=", word "read", word "-r", .token (bareWord [variableName]),
    semicolon, word "do"]

/-- The words of the command that lists one object. -/
def listWords (d : Dialect) : List Slot :=
  match d.kind with
  | .aix | .solaris => [word "ls", word "-dn"]
  | .linux => [word "ls", word "-dn", word "--full-time"]
  | .macos => [word "ls", word "-dnT"]

/-- The loop that lists each object. -/
def listLayout (d : Dialect) : List Slot :=
  loopLayout 'f' ++ listWords d ++ [value 'f', semicolon, word "done"]

/-- The pipeline up to the paths that are found. -/
def pathsLayout (d : Dialect) (s : Shape) : List Slot :=
  let native := s.hasDepth && d.nativeDepth
  let counted := s.hasDepth && !d.nativeDepth
  match s.arm with
  | .path literal =>
    findLayout s (.text .root) native ++ [word "-type", .text .kind] ++
      grepLayout (if literal then "-Fx" else "-E") .path ++ onlyIf counted (awkLayout .depthProgram)
  | .directories =>
    findLayout s (.text .root) native ++ [word "-type", .text .kind] ++ grepLayout "-E" .dirname ++
      onlyIf counted (awkLayout .depthProgram)
  | .nested =>
    findLayout s (.text .root) false ++ [word "-type", word "d"] ++ grepLayout "-E" .dirname ++
      loopLayout 'd' ++ findLayout s (value 'd') native ++ [word "-type", .text .kind] ++
      namesLayout s ++ onlyIf counted relativeLayout ++ [semicolon, word "done"] ++
      onlyIf s.hasPattern (awkLayout .nameProgram)
  | .names =>
    findLayout s (.text .root) native ++ [word "-type", .text .kind] ++ namesLayout s ++
      onlyIf s.hasPattern (awkLayout .nameProgram) ++ onlyIf counted (awkLayout .depthProgram)

/-- The layout of the command for queries of a shape. -/
def layout (d : Dialect) (s : Shape) : List Slot := pathsLayout d s ++ listLayout d

/-! ## Texts -/

/-- The text for a place, if the query has one there. -/
def intended (d : Dialect) (q : Query) : Hole → Option String
  | .root => some (q.normalizedRoot '/')
  | .fsType => q.fsType
  | .kind => some q.kind.letter
  | .path =>
    match q.branch with
    | .path (.literal path) => some path
    | .path (.pattern p) => some p.source
    | _ => none
  | .dirname =>
    match q.branch with
    | .dirname f => some f.patternSource
    | _ => none
  | .equals => if (arm q).takesNames then q.basename.equals.map Glob.escape else none
  | .differs => if (arm q).takesNames then q.basename.differs.map Glob.escape else none
  | .nameProgram =>
    if (arm q).takesNames then q.basename.pattern.map fun p => Awk.lastNameProgram p.source
    else none
  | .depth => if d.nativeDepth then q.depth.map toString else none
  | .depthProgram =>
    if d.nativeDepth || arm q = .nested then none
    else q.depth.map fun n => (DepthFilter.below (q.normalizedRoot '/') n).program
  | .relativeProgram =>
    if d.nativeDepth || arm q ≠ .nested then none else q.depth.map DepthFilter.relativeProgram

/-- A place with its text in it, which is one word. -/
def Slot.fill (f : Hole → Option String) : Slot → Token
  | .token t => t
  | .text h => argument ((f h).getD "").toList

end RemoteSearch.Unix

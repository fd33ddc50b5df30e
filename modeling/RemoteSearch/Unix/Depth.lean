import RemoteSearch.Text.Split

/-!
# Depth by counting

Where `find` has no limit of depth, paths that lie too deep are dropped by counting the fields
between their slashes.
-/

namespace RemoteSearch.Unix

/-- A limit on the number of fields of a path. -/
structure DepthFilter where
  maxFields : Nat
  deriving Repr, DecidableEq, Inhabited

namespace DepthFilter

/-- How many slashes lead to a root; the root of the host counts for none. -/
def slashes (root : List Char) : Nat := if root = ['/'] then 0 else root.count '/'

/-- The limit that admits so many levels below a root. -/
def below (root : String) (depth : Nat) : DepthFilter := ⟨slashes root.toList + 1 + depth⟩

/-- The program that keeps paths with no more than a number of fields. -/
def program (f : DepthFilter) : String := s!"NF <= {f.maxFields}"

theorem toList_program (f : DepthFilter) :
    f.program.toList = "NF <= ".toList ++ (toString f.maxFields).toList := String.toList_append

/-- The step of a pipeline that drops the paths that lie too deep. -/
def render (f : DepthFilter) : String := s!"awk -F/ '{f.program}'"

/-- Whether the step lets a path through. -/
def admitsText (f : DepthFilter) (path : List Char) : Bool :=
  (Text.splitAt '/' path).length ≤ f.maxFields

/-- Whether the step lets a path through. -/
def admits (f : DepthFilter) (path : String) : Bool := f.admitsText path.toList

/--
The beginning of the program that keeps paths no more than a number of levels below the directory
in the variable `d`.
-/
def relativeHead : String :=
  "BEGIN \x7b n = (d == \"/\") ? 1 : split(d, p, \"/\") \x7d NF <= n + "

/-- The program that keeps paths no more than `n` levels below the directory in `d`. -/
def relativeProgram (n : Nat) : String := relativeHead ++ toString n

theorem toList_relativeProgram (n : Nat) :
    (relativeProgram n).toList = relativeHead.toList ++ (toString n).toList := String.toList_append

end DepthFilter

end RemoteSearch.Unix

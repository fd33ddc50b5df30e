import RemoteSearch.Error
import RemoteSearch.Pattern.Basic

/-!
# Conditions

What a search may ask for. A condition constrains one property of the objects to be found, or of
the way they are looked for. `Condition.make?` takes a property, a comparison and a value as they
come from a caller and refuses combinations that mean nothing.
-/

namespace RemoteSearch

/-- What a condition is about. -/
inductive Field where
  | fileType
  | path
  | dirname
  | basename
  | fsType
  | root
  | depth
  | followLinks
  | xdev
  deriving Repr, DecidableEq, Inhabited

/-- How a condition compares. -/
inductive Comparison where
  | equality
  | inequality
  | pattern
  deriving Repr, DecidableEq, Inhabited

/-- A value to compare with. -/
inductive Value where
  | text (s : String)
  | pattern (p : Regex)
  | integer (n : Int)
  | flag (b : Bool)
  deriving DecidableEq

namespace Field

/-- The name of the property in messages. -/
def name : Field → String
  | fileType => "FileType"
  | path => "Path"
  | dirname => "Dirname"
  | basename => "Basename"
  | fsType => "FsType"
  | root => "From"
  | depth => "Depth"
  | followLinks => "FollowLinks"
  | xdev => "Xdev"

end Field

namespace Comparison

/-- The name of the comparison in messages. -/
def name : Comparison → String
  | equality => "Equality"
  | inequality => "Inequality"
  | pattern => "Pattern"

end Comparison

namespace Value

/-- What kind of value it is. -/
def kind : Value → String
  | text _ => "text"
  | pattern _ => "pattern"
  | integer _ => "integer"
  | flag _ => "boolean"

/-- The value as messages show it: texts in quotes, patterns between slashes. -/
def shown : Value → String
  | text s => s!"'{s}'"
  | pattern p => s!"/{p.source}/"
  | integer n => toString n
  | flag b => if b then "true" else "false"

end Value

/-- The kind of object that a search returns. -/
inductive SearchKind where
  | file
  | directory
  | link
  deriving Repr, DecidableEq, Inhabited

namespace SearchKind

/-- The letter for the kind. -/
def letter : SearchKind → String
  | file => "f"
  | directory => "d"
  | link => "l"

/-- The kind with the given letter. -/
def ofLetter? : String → Option SearchKind
  | "f" => some file
  | "d" => some directory
  | "l" => some link
  | _ => none

theorem ofLetter?_letter (k : SearchKind) : ofLetter? k.letter = some k := by cases k <;> rfl

end SearchKind

/-- A constraint on a whole path. -/
inductive PathFilter where
  | literal (path : String)
  | pattern (p : Regex)
  deriving DecidableEq

namespace PathFilter

/-- The constraint as a value. -/
def value : PathFilter → Value
  | literal s => .text s
  | pattern p => .pattern p

/-- A pattern for the constraint; a literal path is anchored at both ends. -/
def patternSource : PathFilter → String
  | literal s => s!"^{Pattern.escape s}$"
  | pattern p => p.source

end PathFilter

/-- A constraint on the last name of a path. -/
inductive NameTest where
  | equals (name : String)
  | differs (name : String)
  | pattern (p : Regex)
  deriving DecidableEq

/-- A condition of a search. -/
inductive Condition where
  | fileType (kind : SearchKind)
  | path (filter : PathFilter)
  | dirname (filter : PathFilter)
  | basename (test : NameTest)
  | fsType (name : String)
  /-- Where the search begins. -/
  | root (path : String)
  /-- How many levels below the root are searched, all of them if there is no limit. -/
  | depth (limit : Option Nat)
  | followLinks (on : Bool)
  /-- Whether the search stays on the filesystem of its root. -/
  | xdev (on : Bool)
  deriving DecidableEq

namespace Condition

/-- What the condition is about. -/
def field : Condition → Field
  | fileType _ => .fileType
  | path _ => .path
  | dirname _ => .dirname
  | basename _ => .basename
  | fsType _ => .fsType
  | root _ => .root
  | depth _ => .depth
  | followLinks _ => .followLinks
  | xdev _ => .xdev

/-- How the condition compares. -/
def comparison : Condition → Comparison
  | path (.pattern _) | dirname (.pattern _) | basename (.pattern _) => .pattern
  | basename (.differs _) => .inequality
  | _ => .equality

/-- What the condition compares with. -/
def value : Condition → Value
  | fileType k => .text k.letter
  | path f | dirname f => f.value
  | basename (.equals s) | basename (.differs s) => .text s
  | basename (.pattern p) => .pattern p
  | fsType s | root s => .text s
  | depth none => .integer (-1)
  | depth (some n) => .integer n
  | followLinks b | xdev b => .flag b

/-- The condition as messages show it. -/
def shown (c : Condition) : String := s!"{c.field.name} {c.comparison.name} {c.value.shown}"

/-- The condition made of a property, a comparison and a value. -/
def make? (field : Field) (comparison : Comparison) (value : Value) : Except Error Condition :=
  match field, comparison, value with
  | .fileType, .equality, .text s =>
    match SearchKind.ofLetter? s with
    | some k => .ok (fileType k)
    | none => .error (.invalidArgument s!"unknown file type '{s}', expected f, d or l")
  | .path, .equality, .text s => .ok (path (.literal s))
  | .path, .pattern, .pattern p => .ok (path (.pattern p))
  | .dirname, .equality, .text s => .ok (dirname (.literal s))
  | .dirname, .pattern, .pattern p => .ok (dirname (.pattern p))
  | .basename, .equality, .text s => .ok (basename (.equals s))
  | .basename, .inequality, .text s => .ok (basename (.differs s))
  | .basename, .pattern, .pattern p => .ok (basename (.pattern p))
  | .fsType, .equality, .text s => .ok (fsType s)
  | .root, .equality, .text s => .ok (root s)
  | .depth, .equality, .integer n =>
    if n < -1 then .error (.invalidArgument s!"depth must be -1 or non-negative, got {n}")
    else if n = -1 then .ok (depth none)
    else .ok (depth (some n.toNat))
  | .followLinks, .equality, .flag b => .ok (followLinks b)
  | .xdev, .equality, .flag b => .ok (xdev b)
  | field, comparison, value =>
    .error (.invalidArgument
      s!"{field.name} with {comparison.name} does not accept a {value.kind} value")

/-- **A condition is made of its own parts**, and of no others. -/
theorem make?_parts (c : Condition) : make? c.field c.comparison c.value = .ok c := by
  cases c with
  | fileType k => cases k <;> rfl
  | path f => cases f <;> rfl
  | dirname f => cases f <;> rfl
  | basename t => cases t <;> rfl
  | depth limit =>
    cases limit with
    | none => rfl
    | some n =>
      have h1 : ¬ (n : Int) < -1 := by omega
      have h2 : ¬ (n : Int) = -1 := by omega
      simp [make?, field, comparison, value, h1, h2]
  | _ => rfl

end Condition

end RemoteSearch

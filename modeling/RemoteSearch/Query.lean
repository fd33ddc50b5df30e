import RemoteSearch.Condition
import RemoteSearch.Path

/-!
# Queries

A list of conditions reduced to one value for each slot. A slot is a property, and for the last
name of a path a property together with a comparison. Conditions of one slot have to agree; beyond
that neither their order nor their number matters.
-/

namespace RemoteSearch

/-- The constraints on the last name of a path, any of which may be there. -/
structure NameFilter where
  equals : Option String := none
  differs : Option String := none
  pattern : Option Regex := none
  deriving DecidableEq

namespace NameFilter

/-- Whether there is no constraint at all. -/
def isEmpty (f : NameFilter) : Bool := f.equals.isNone && f.differs.isNone && f.pattern.isNone

end NameFilter

/-- What a search asks for. -/
structure Query where
  root : String
  depth : Option Nat := none
  kind : SearchKind := .file
  path : Option PathFilter := none
  dirname : Option PathFilter := none
  basename : NameFilter := {}
  fsType : Option String := none
  followLinks : Bool := false
  xdev : Bool := false
  deriving DecidableEq

/-- The constraint that governs a search. -/
inductive Branch where
  | path (filter : PathFilter)
  | dirname (filter : PathFilter)
  | basename (filter : NameFilter)
  deriving DecidableEq

namespace Condition

/-- Whether two conditions belong to the same slot. -/
def sameSlot : Condition → Condition → Bool
  | basename a, basename b =>
    match a, b with
    | .equals _, .equals _ => true
    | .differs _, .differs _ => true
    | .pattern _, .pattern _ => true
    | _, _ => false
  | a, b => a.field == b.field

/-- Where the search begins, if the condition says so. -/
def root? : Condition → Option String
  | root s => some s
  | _ => none

/-- The limit of depth, if the condition gives one or lifts it. -/
def depth? : Condition → Option (Option Nat)
  | depth d => some d
  | _ => none

/-- The kind of object, if the condition is about it. -/
def kind? : Condition → Option SearchKind
  | fileType k => some k
  | _ => none

/-- The constraint on the path, if the condition is one. -/
def path? : Condition → Option PathFilter
  | path f => some f
  | _ => none

/-- The constraint on the directory, if the condition is one. -/
def dirname? : Condition → Option PathFilter
  | dirname f => some f
  | _ => none

/-- The name that is asked for, if the condition does. -/
def equals? : Condition → Option String
  | basename (.equals s) => some s
  | _ => none

/-- The name that is excluded, if the condition does. -/
def differs? : Condition → Option String
  | basename (.differs s) => some s
  | _ => none

/-- The pattern for names, if the condition gives one. -/
def namePattern? : Condition → Option Regex
  | basename (.pattern p) => some p
  | _ => none

/-- The type of filesystem, if the condition is about it. -/
def fsType? : Condition → Option String
  | fsType s => some s
  | _ => none

/-- Whether links are followed, if the condition says so. -/
def followLinks? : Condition → Option Bool
  | followLinks b => some b
  | _ => none

/-- Whether the filesystem may be left, if the condition says so. -/
def xdev? : Condition → Option Bool
  | xdev b => some b
  | _ => none

/--
The first condition that disagrees with an earlier one of its slot, with that earlier one. `seen`
are the conditions before the list.
-/
def conflict? (seen : List Condition) : List Condition → Option (Condition × Condition)
  | [] => none
  | c :: cs =>
    match seen.find? fun d => d.sameSlot c && d != c with
    | some d => some (d, c)
    | none => conflict? (seen ++ [c]) cs

end Condition

namespace Query

/-- The error for two conditions of one slot that disagree. -/
def conflictError (first second : Condition) : Error :=
  .invalidArgument
    s!"conflicting {second.field.name} conditions: {first.value.shown} and {second.value.shown}"

/-- The limit of depth; a limit of 2³² or more is out of range. -/
def depthOf (limit : Option Nat) : Except Error (Option Nat) :=
  match limit with
  | none => .ok none
  | some n =>
    if n < UInt32.size then .ok (some n)
    else .error (.invalidArgument s!"depth {n} out of range")

/-- The query that a list of conditions makes. -/
def ofConditions (cs : List Condition) : Except Error Query :=
  match Condition.conflict? [] cs with
  | some (a, b) => .error (conflictError a b)
  | none =>
    match cs.findSome? Condition.root? with
    | none => .error (.invalidArgument "a search root (From) is required")
    | some root =>
      if root.isEmpty then .error (.invalidArgument "a search root (From) is required")
      else
        (depthOf ((cs.findSome? Condition.depth?).getD none)).map fun depth =>
          { root
            depth
            kind := (cs.findSome? Condition.kind?).getD .file
            path := cs.findSome? Condition.path?
            dirname := cs.findSome? Condition.dirname?
            basename :=
              { equals := cs.findSome? Condition.equals?
                differs := cs.findSome? Condition.differs?
                pattern := cs.findSome? Condition.namePattern? }
            fsType := cs.findSome? Condition.fsType?
            followLinks := (cs.findSome? Condition.followLinks?).getD false
            xdev := (cs.findSome? Condition.xdev?).getD false }

/-- The governing constraint: path before directory before last name. -/
def branch (q : Query) : Branch :=
  match q.path, q.dirname with
  | some f, _ => .path f
  | none, some f => .dirname f
  | none, none => .basename q.basename

/-- The root as a text without delimiters at its end; the root of a host or drive stays whole. -/
def normalizedRootText (d : Char) (root : List Char) : List Char :=
  match Path.dropTrailing d root with
  | [] => [d]
  | l => if d = '\\' ∧ l.getLast? = some ':' then l ++ [d] else l

/-- Where the search begins, without delimiters at the end. -/
def normalizedRoot (q : Query) (d : Char) : String :=
  String.ofList (normalizedRootText d q.root.toList)

end Query

end RemoteSearch

import RemoteSearch.Unix.Pipeline
import RemoteSearch.Unix.Mounts
import RemoteSearch.Windows.Pipeline
import RemoteSearch.Windows.Helper
import RemoteSearch.Windows.Mounts
import RemoteSearch.Windows.Record

/-!
# Platforms

Everything that depends on the kind of host, in one place: how a search is written, how its records
are read, and how mounts are listed and used.
-/

namespace RemoteSearch

open Calendar (Instant)

/-- A host as far as its language is concerned. -/
inductive Platform where
  | unix (dialect : Unix.Dialect)
  | windows
  deriving Repr, DecidableEq, Inhabited

namespace Platform

/-- The platform of a flavor. -/
def ofFlavor : Flavor → Platform
  | .unix k => unix (.ofKind k)
  | .windows => windows

/-- The flavor of a platform. -/
def flavor : Platform → Flavor
  | unix d => .unix d.kind
  | windows => .windows

/-- The shell that is spoken on the host. -/
def shell (p : Platform) : Shell := p.flavor.shell

/-- The delimiter of paths. -/
def delimiter (p : Platform) : Char := p.flavor.delimiter

/-- The command for a query. -/
def compile : Platform → Query → Except Error Compiled
  | unix d, q => .ok (Unix.compile d q)
  | windows, q => Windows.compile q

/-- The command for a list of conditions. -/
def compileConditions (p : Platform) (cs : List Condition) : Except Error Compiled :=
  (Query.ofConditions cs).bind p.compile

/-- The command that shows one object. -/
def statCommand : Platform → String → String
  | unix d, path => Unix.statCommand d path
  | windows, path => Windows.statCommand path

/-- The module that commands call into, as name and text. -/
def helper? : Platform → Option (String × String)
  | unix _ => none
  | windows => some (Windows.helperName, Windows.helperSource)

/-- The command that lists the mounts. -/
def mountCommand : Platform → String
  | unix d => d.mountCommand
  | windows => Windows.mountCommand

/-- The mounts of a listing. -/
def readMounts : Platform → String → List Mount
  | unix d, output => Unix.readMounts d.mountStyle output
  | windows, output => Windows.readMounts output

/--
Whether a search below a root can find anything on filesystems of a type. On Unix hosts one of the
two paths has to lie within the other.
-/
def admits (p : Platform) (mounts : List Mount) (root fsType : String) : Bool :=
  match p with
  | unix _ =>
    mounts.any fun m => m.fsType == fsType &&
      (Path.isWithin m.path root p.delimiter false || Path.isWithin root m.path p.delimiter false)
  | windows => Windows.admits mounts root fsType

/-! ## Records -/

/-- The next record of a Unix listing: the first line that is not blank. -/
def readLineRecord (style : Unix.DateStyle) (now : Instant) :
    List String → Option (Except RecordError Metadata × List String)
  | [] => none
  | line :: rest =>
    if Text.allBlank line then readLineRecord style now rest
    else some (Unix.readLine style now line, rest)

/-- The next record or the reason why it is none, and the lines after it. -/
def readRecord (p : Platform) (now : Instant) (l : List String) :
    Option (Except RecordError Metadata × List String) :=
  match p with
  | unix d => readLineRecord d.dateStyle now l
  | windows => Windows.readRecord l

/-- A record takes at least one line. -/
theorem length_lt_of_readRecord {p : Platform} {now : Instant} {l rest : List String}
    {r : Except RecordError Metadata} (h : p.readRecord now l = some (r, rest)) :
    rest.length < l.length := by
  cases p with
  | windows => exact Windows.length_lt_of_readRecord h
  | unix d =>
    simp only [readRecord] at h
    induction l with
    | nil => simp [readLineRecord] at h
    | cons line l ih =>
      simp only [readLineRecord] at h
      split at h
      · have := ih h
        simp only [List.length_cons]
        omega
      · simp only [Option.some.injEq, Prod.mk.injEq] at h
        simp [h.2]

/-- All records of the lines, in order, with the reason in place of each that is none. -/
def readRecords (p : Platform) (now : Instant) (l : List String) :
    List (Except RecordError Metadata) :=
  match h : p.readRecord now l with
  | none => []
  | some (r, rest) =>
    have : rest.length < l.length := length_lt_of_readRecord h
    r :: readRecords p now rest
termination_by l.length

theorem readRecords_of_none {p : Platform} {now : Instant} {l : List String}
    (h : p.readRecord now l = none) : p.readRecords now l = [] := by
  rw [readRecords.eq_def]
  split
  · rfl
  · next he => rw [h] at he; cases he

theorem readRecords_of_some {p : Platform} {now : Instant} {l rest : List String}
    {r : Except RecordError Metadata} (h : p.readRecord now l = some (r, rest)) :
    p.readRecords now l = r :: p.readRecords now rest := by
  rw [readRecords.eq_def]
  split
  · next hn => rw [h] at hn; cases hn
  · next he =>
    obtain ⟨rfl, rfl⟩ := Prod.mk.inj (Option.some.inj (h.symm.trans he))
    rfl

end Platform

end RemoteSearch

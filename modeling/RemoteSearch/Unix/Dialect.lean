import RemoteSearch.Flavor
import RemoteSearch.Unix.Listing

/-!
# Dialects

How the tools of a Unix host differ: whether `find` can limit its depth by itself, how an object is
listed, how dates look in that listing, and where the mount table comes from.
-/

namespace RemoteSearch.Unix

/-- How a host lists its mounts. -/
inductive MountStyle where
  /-- Two lines of headings, then columns of which the first may be missing. -/
  | columns
  /-- Words, the second and third being path and type. -/
  | table
  /-- As `table`, with blanks in paths written as octal escapes. -/
  | escapedTable
  /-- A device on a path, with type and options in brackets. -/
  | bracketed
  deriving Repr, DecidableEq, Inhabited

/-- The tools of a Unix host. -/
structure Dialect where
  kind : UnixKind
  /-- Whether `find` takes a limit of depth. -/
  nativeDepth : Bool
  deriving Repr, DecidableEq, Inhabited

namespace Dialect

/-- The tools as a kind of host has them. -/
def ofKind (k : UnixKind) : Dialect :=
  ⟨k, match k with
    | .aix | .solaris => false
    | .linux | .macos => true⟩

/-- The command that lists one object. -/
def listCommand (d : Dialect) : String :=
  match d.kind with
  | .aix | .solaris => "ls -dn"
  | .linux => "ls -dn --full-time"
  | .macos => "ls -dnT"

/-- How dates look in that listing. -/
def dateStyle (d : Dialect) : DateStyle :=
  match d.kind with
  | .aix | .solaris => .abbreviated
  | .linux => .fullIso
  | .macos => .seconds

/-- The command that lists the mounts. -/
def mountCommand (d : Dialect) : String :=
  match d.kind with
  | .aix | .macos => "mount"
  | .solaris => "cat /etc/mnttab"
  | .linux => "cat /proc/mounts"

/-- How that list looks. -/
def mountStyle (d : Dialect) : MountStyle :=
  match d.kind with
  | .aix => .columns
  | .solaris => .table
  | .linux => .escapedTable
  | .macos => .bracketed

end Dialect

end RemoteSearch.Unix

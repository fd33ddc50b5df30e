import RemoteSearch.Shell
import RemoteSearch.Text.Blank

/-!
# Flavors

The kinds of host that can be searched. A flavor settles the shell that is spoken, the delimiter of
paths and the scopes under which its settings are looked up.
-/

namespace RemoteSearch

/-- A kind of Unix host. -/
inductive UnixKind where
  | aix
  | solaris
  | linux
  | macos
  deriving Repr, DecidableEq, Inhabited

namespace UnixKind

/-- The name of the kind in settings and messages. -/
def name : UnixKind → String
  | aix => "aix"
  | solaris => "solaris"
  | linux => "linux"
  | macos => "macos"

/-- The kind of the host that calls itself so; blanks around the name do not count. -/
def ofUname? (text : String) : Option UnixKind :=
  match Text.trimmed text with
  | "AIX" => some aix
  | "SunOS" => some solaris
  | "Linux" => some linux
  | "Darwin" => some macos
  | _ => none

end UnixKind

/-- A kind of host. -/
inductive Flavor where
  | unix (kind : UnixKind)
  | windows
  deriving Repr, DecidableEq, Inhabited

namespace Flavor

/-- The name of the flavor in settings and messages. -/
def name : Flavor → String
  | unix k => k.name
  | windows => "windows"

/-- Whether the flavor belongs to the Unix family. -/
def isUnix : Flavor → Bool
  | unix _ => true
  | windows => false

/-- The scopes of settings that apply, most specific first. -/
def scopes : Flavor → List String
  | unix k => [k.name, "unix"]
  | windows => ["windows"]

/-- The delimiter of paths. -/
def delimiter : Flavor → Char
  | unix _ => '/'
  | windows => '\\'

/-- The shell that is spoken on the host. -/
def shell : Flavor → Shell
  | unix _ => .posix
  | windows => .powershell

end Flavor

end RemoteSearch

import RemoteSearch.Text.Split

/-!
# Launching commands on this machine

Commands are handed to a shell as the last argument of its program. Modules are not loaded once and
for all, since every command is a shell of its own: their import stands in front of each command.
-/

namespace RemoteSearch.Local

open Text

/-- The program of a shell, and its arguments before the command. -/
structure Launcher where
  program : String
  arguments : List String
  deriving Repr, DecidableEq, Inhabited

namespace Launcher

/-- The usual shell of Unix hosts. -/
def posix : Launcher := ⟨"/bin/sh", ["-c"]⟩

/-- PowerShell, by the name of its program. -/
def powershell (program : String) : Launcher :=
  ⟨program, ["-NoProfile", "-NonInteractive", "-Command"]⟩

/-- Whether the program is a PowerShell, which its name tells. -/
def isPowerShell (l : Launcher) : Bool :=
  let name := l.program.toList.map Char.toLower
  (cutAt "powershell".toList name).isSome || (cutAt "pwsh".toList name).isSome

end Launcher

/-- The modules that commands import, as names and texts, earliest first. -/
abbrev Modules : Type := List (String × String)

namespace Modules

/-- The modules with one more, which takes the place of one of its name and comes last. -/
def load (l : Modules) (name source : String) : Modules :=
  l.filter (·.1 != name) ++ [(name, source)]

/-- The import of one module. -/
def importText (name source : String) : String :=
  s!"New-Module -Name {name} -ScriptBlock \x7b\n{source}\n\x7d | Import-Module; "

/-- A command with the imports in front of it. -/
def script (l : Modules) (command : String) : String :=
  String.join (l.map fun m => importText m.1 m.2) ++ command

end Modules

end RemoteSearch.Local

import RemoteSearch.Mount
import RemoteSearch.Text.Blank
import RemoteSearch.Text.Case.Upper
import RemoteSearch.Text.Split

/-!
# Drives of Windows hosts

One drive per line, its root and the number of its type. A search is admitted on a type of drive
when its root begins like the root of such a drive, without regard to case.
-/

namespace RemoteSearch.Windows

open Text Text.Case

/-- The command that lists the drives. -/
def mountCommand : String :=
  "Get-WmiObject -Class Win32_LogicalDisk | ForEach-Object \x7b " ++
    "\"\x7b0\x7d\\ \x7b1\x7d\" -f $_.DeviceID, $_.DriveType \x7d"

/-- The type of a drive by its number. -/
def driveType : String → String
  | "2" => "removable"
  | "3" => "fixed"
  | "4" => "remote"
  | "5" => "cdrom"
  | "6" => "ramdisk"
  | _ => "unknown"

/-- The drive that a line shows. -/
def readDrive (line : String) : Option Mount :=
  (cutLast " " (trimmed line)).map fun (path, number) =>
    ⟨trimmed path, driveType (trimmed number)⟩

/-- The drives of a list. -/
def readMounts (output : String) : List Mount := (lines output).filterMap readDrive

/-- Whether a search below a root can find anything on drives of a type. -/
def admits (mounts : List Mount) (root fsType : String) : Bool :=
  mounts.any fun m =>
    eqIgnoreAsciiCase m.fsType fsType &&
      (upperText m.path.toList).isPrefixOf (upperText root.toList)

end RemoteSearch.Windows

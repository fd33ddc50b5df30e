import RemoteSearch.Machine.CharTools
import RemoteSearch.Machine.Check
import RemoteSearch.Machine.Filters
import RemoteSearch.Machine.Find
import RemoteSearch.Machine.Listing
import RemoteSearch.Machine.SequenceTools
import RemoteSearch.Machine.SortTools

/-!
# Tools

The commands of a machine by their names. Those that a shell has in itself and those that are files
of their own differ only in where they are found.
-/

namespace RemoteSearch.Machine

open Text

/-- A time in seconds, perhaps with a fraction or a unit, in milliseconds. -/
def milliseconds? (l : List Char) : Option Nat :=
  let whole := l.takeWhile Char.isDigit
  let afterWhole := l.drop whole.length
  let fraction :=
    match afterWhole with
    | '.' :: r => r.takeWhile Char.isDigit
    | _ => []
  let rest := afterWhole.drop (if afterWhole.head? = some '.' then fraction.length + 1 else 0)
  if whole.isEmpty && fraction.isEmpty then none
  else
    let thousandths := (fraction ++ ['0', '0', '0']).take 3
    let time := 1000 * (natOfDigits whole).getD 0 + (natOfDigits thousandths).getD 0
    match rest with
    | [] => some time
    | ['s'] => some time
    | ['m'] => some (60 * time)
    | ['h'] => some (3600 * time)
    | ['d'] => some (86400 * time)
    | _ => none

/-- Sleeps for the sum of some times. -/
def sleepFor (times : List String) (p : Process) : Process :=
  if times.isEmpty then missingOperand "sleep" p
  else
    match times.filter fun a => (milliseconds? a.toList).isNone && a != "infinity" with
    | [] =>
      if times.contains "infinity" then p.expire
      else (p.finish 0).sleep ((times.filterMap fun a => milliseconds? a.toList).foldl (· + ·) 0)
    | wrong =>
      let said := String.join (wrong.map fun a => s!"sleep: invalid time interval '{a}'\n")
      (p.complain (said ++ OptionFault.hint "sleep")).finish 1

/-- Runs `sleep`. -/
def runSleep (arguments : List String) (p : Process) : Process :=
  withOptions "sleep" 1 [] [] [] arguments (fun g => sleepFor g.operands) p

/-- The commands that a shell has in itself, though they do nothing to it. -/
def innerTool? : String → Option (List String → Process → Process)
  | "echo" => some runEcho
  | "printf" => some runPrintf
  | "test" => some (runCheck "test")
  | "[" => some runBracketCheck
  | _ => none

/-- The commands that are files of their own. -/
def outerTool? : String → Option (List String → Process → Process)
  | "cat" => some runCat
  | "ls" => some runList
  | "find" => some runFind
  | "grep" => some runGrep
  | "egrep" => some fun arguments => runGrep ("-E" :: arguments)
  | "fgrep" => some fun arguments => runGrep ("-F" :: arguments)
  | "awk" => some runAwk
  | "gzip" => some runGzip
  | "sleep" => some runSleep
  | "head" => some (runPart "head" '-' Portion.input Portion.first)
  | "tail" => some (runPart "tail" '+' (fun _ => Process.takeInput) Portion.last)
  | "wc" => some runCount
  | "sort" => some runSort
  | "uniq" => some runUnique
  | "tr" => some runTranslate
  | "cut" => some runCut
  | "tee" => some runTee
  | "tac" => some (runMapping "tac" fun l => (Portion.pieces {} l).reverse.flatten)
  | "rev" => some (runMapping "rev" reverseLines)
  | "seq" => some runSequence
  | "yes" => some runYes
  | "basename" => some runBaseName
  | "dirname" => some runParentName
  | "mkdir" => some runMakeDirectory
  | "rmdir" => some runRemoveDirectory
  | "rm" => some runRemove
  | "touch" => some runTouch
  | "cp" => some runCopy
  | "mv" => some runMove
  | "ln" => some runLink
  | "chmod" => some runChangeMode
  | "readlink" => some runReadLink
  | "whoami" => some fun _ p => (p.print "root\n").finish 0
  | "true" => some fun _ p => p.finish 0
  | "false" => some fun _ p => p.finish 1
  | name => innerTool? name

/-- Where commands that are files of their own are. -/
def toolDirectories : List String := ["/usr/bin/", "/bin/"]

/-- The name of a command that is a file of its own, by its path. -/
def toolNamed? (path : String) : Option String :=
  (toolDirectories.findSome? fun d =>
    if path.startsWith d then some (String.ofList (path.toList.drop d.length)) else none).filter
    fun name => (outerTool? name).isSome || ["sh", "dash", "env", "xargs", "timeout"].contains name

end RemoteSearch.Machine

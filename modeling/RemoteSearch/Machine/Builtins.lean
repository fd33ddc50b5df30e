import RemoteSearch.Machine.Expansion
import RemoteSearch.Machine.Signals

/-!
# Commands of the shell

The commands by which a script changes the shell that runs it: its directory, variables, arguments
and options, its way through loops and functions, and what it does about signals and jobs.
-/

namespace RemoteSearch.Machine

open Text

/-! ## Directories -/

/-- A path from the root without names that stay or go back. -/
def plainPath (path : String) : String :=
  let names := (Text.split '/' path).foldl
    (fun (names : List String) name =>
      if name.isEmpty || name == "." then names
      else if name == ".." then names.tail
      else name :: names)
    []
  let start := if path.startsWith "//" && !path.startsWith "///" then "//" else "/"
  start ++ "/".intercalate names.reverse

/-- The letters at the start of arguments that begin with a dash, and the other arguments. -/
def splitLetters : List String → List Char × List String
  | [] => ([], [])
  | a :: r =>
    match a.toList with
    | ['-'] => ([], a :: r)
    | ['-', '-'] => ([], r)
    | '-' :: l => let (letters, others) := splitLetters r; (l ++ letters, others)
    | _ => ([], a :: r)

/-- The complaint about a letter that is no option. -/
def illegalOption (c : Char) : String := s!"Illegal option -{c}"

/-- Changes the directory; `physical` takes links on the way for what they lead to. -/
def changeDirectory (physical : Bool) (arguments : List String) (p : Process) : Process :=
  let back := arguments.head? = some "-"
  let path :=
    if back then p.value "OLDPWD"
    else
      match arguments with
      | [] => p.value "HOME"
      | path :: _ => path
  if path.isEmpty then p.finish 0
  else
    let whole := if path.startsWith "/" then path else p.directory ++ "/" ++ path
    let full := if physical then whole else plainPath whole
    match p.tree.find [] full with
    | .ok (place, .directory _) =>
      let full := if physical then Tree.pathOf place else full
      let moved := ({ p with here := place, directory := full }.assign "OLDPWD" p.directory).assign
        "PWD" full
      (if back then moved.print (full ++ "\n") else moved).finish 0
    | _ => (p.warnAs "cd" s!"can't cd to {path}").finish 2

/-- Runs `cd`. -/
def runChange (arguments : List String) (p : Process) : Process :=
  let (letters, rest) := splitLetters arguments
  match letters.find? fun c => c != 'L' && c != 'P' with
  | some c => (p.warnAs "cd" (illegalOption c)).finish 2
  | none => changeDirectory (letters.getLast? = some 'P') rest p

/-- Runs `pwd`. -/
def runWhere (arguments : List String) (p : Process) : Process :=
  let letters := (splitLetters arguments).1
  match letters.find? fun c => c != 'L' && c != 'P' with
  | some c => (p.warnAs "pwd" (illegalOption c)).finish 2
  | none =>
    let path := if letters.getLast? = some 'P' then Tree.pathOf p.here else p.directory
    (p.print (path ++ "\n")).finish 0

/-! ## Ways through a script -/

/-- A number that a command takes, or the shell ends with a complaint. -/
def withNumber (command text : String) (p : Process) (body : Nat → Process) : Process :=
  match natOfDigits text.toList with
  | some n =>
    if n < 0x8000_0000 then body n else p.failAs command s!"Illegal number: {text}"
  | none => p.failAs command s!"Illegal number: {text}"

/-- Runs `exit`. -/
def runExit (arguments : List String) (p : Process) : Process :=
  match arguments with
  | [] => p.stop p.status .exited
  | a :: _ => withNumber "exit" a p fun n => p.stop (n % 256) .exited

/-- Runs `return`. -/
def runReturn (arguments : List String) (p : Process) : Process :=
  match arguments with
  | [] => p.stop p.status .returned
  | a :: _ => withNumber "return" a p fun n => p.stop n .returned

/-- Runs `break` or `continue`. -/
def runLeave (command : String) (halt : Nat → Halt) (arguments : List String) (p : Process) :
    Process :=
  let text := arguments.headD "1"
  withNumber command text p fun n =>
    if n = 0 then p.failAs command s!"Illegal number: {text}"
    else if p.loops = 0 then p.finish 0
    else p.stop 0 (halt (min n p.loops))

/-- Runs `shift`. -/
def runShift (arguments : List String) (p : Process) : Process :=
  withNumber "shift" (arguments.headD "1") p fun n =>
    if p.arguments.length < n then p.failAs "shift" "can't shift that many"
    else { p with arguments := p.arguments.drop n }.finish 0

/-! ## Options -/

/-- The letters of options in the order in which they are shown. -/
def optionLetters : List Char := "ubaCEVvxsnmiIfe".toList

/-- The letters of options that have names. -/
def optionNames : List (String × Char) :=
  [("errexit", 'e'), ("noglob", 'f'), ("ignoreeof", 'I'), ("interactive", 'i'), ("monitor", 'm'),
    ("noexec", 'n'), ("stdin", 's'), ("xtrace", 'x'), ("verbose", 'v'), ("vi", 'V'),
    ("emacs", 'E'), ("noclobber", 'C'), ("allexport", 'a'), ("notify", 'b'), ("nounset", 'u')]

/-- Turns an option on or off. -/
def setOption (on : Bool) (letter : Char) (p : Process) : Process :=
  { p with options := optionLetters.filter fun c => if c = letter then on else p.hasOption c }

/-- Turns options on or off by their letters. -/
def setLetters (on : Bool) (p : Process) : List Char → Process
  | [] => p
  | c :: r =>
    if optionLetters.contains c then setLetters on (setOption on c p) r
    else
      let sign := if on then '-' else '+'
      p.failAs "set" s!"Illegal option {sign}{c}"

/-- Takes the arguments of `set`: options, and then the arguments of the script. -/
def setAll (p : Process) : List String → Process
  | [] => p
  | "--" :: r => { p with arguments := r }
  | "-o" :: name :: r =>
    match optionNames.lookup name with
    | some c => setAll (setOption true c p) r
    | none => p.failAs "set" s!"Illegal option -o {name}"
  | "+o" :: name :: r =>
    match optionNames.lookup name with
    | some c => setAll (setOption false c p) r
    | none => p.failAs "set" s!"Illegal option +o {name}"
  | a :: r =>
    match a.toList with
    | ['-'] => if r.isEmpty then p else { p with arguments := r }
    | '-' :: l => (setLetters true p l).ifRunning fun p => setAll p r
    | '+' :: l => (setLetters false p l).ifRunning fun p => setAll p r
    | _ => { p with arguments := a :: r }

/-- Runs `set`. -/
def runSet (arguments : List String) (p : Process) : Process := setAll (p.finish 0) arguments

/-! ## Variables -/

/-- A text in single quotes, of which those in it are in double ones. -/
def inQuotes (text : String) : String :=
  "'" ++ String.join (text.toList.map fun c => if c = '\'' then "'\"'\"'" else c.toString) ++ "'"

/-- A line for each variable of a kind. -/
def showVariables (command : String) (names : List String) (p : Process) : Process :=
  let sorted := names.mergeSort fun a b => decide (a ≤ b)
  let line (name : String) : String :=
    match p.value? name with
    | some v => s!"{command} {name}={inQuotes v}\n"
    | none => s!"{command} {name}\n"
  (p.print (String.join (sorted.map line))).finish 0

/-- A name with the value after an equals sign. -/
def splitSetting (text : String) : String × Option String :=
  match cut "=" text with
  | some (name, value) => (name, some value)
  | none => (text, none)

/-- Does something with each variable that is named, until the shell ends. -/
def forEachVariable (command : String) (body : String → Option String → Process → Process)
    (settings : List String) (p : Process) : Process :=
  settings.foldl
    (fun p setting =>
      p.ifRunning fun p =>
        let (name, value) := splitSetting setting
        if Script.isName name.toList then body name value p
        else p.failAs command s!"{name}: bad variable name")
    (p.finish 0)

/-- A command gives a variable a value, or complains and the shell ends if it cannot change. -/
def assignAs (command name value : String) (p : Process) : Process :=
  if p.frozen.contains name then p.failAs command s!"{name}: is read only" else p.assign name value

/-- A command gives a variable a value, if there is one. -/
def assignGiven (command name : String) (value : Option String) (p : Process) : Process :=
  match value with
  | some v => assignAs command name v p
  | none => p

/-- Shows the variables of a kind if none is named, or does something with those that are. -/
def markVariables (command : String) (marked : List String)
    (body : String → Option String → Process → Process) (arguments : List String)
    (p : Process) : Process :=
  let (letters, rest) := splitLetters arguments
  match letters.find? (· != 'p') with
  | some c => p.failAs command (illegalOption c)
  | none =>
    if rest.isEmpty || letters.contains 'p' then showVariables command marked p
    else forEachVariable command body rest p

/-- Runs `export`. -/
def runExport (arguments : List String) (p : Process) : Process :=
  markVariables "export" p.exported
    (fun name value p =>
      let p := assignGiven "export" name value p
      { p with exported := name :: p.exported.filter (· != name) })
    arguments p

/-- Runs `readonly`. -/
def runReadonly (arguments : List String) (p : Process) : Process :=
  markVariables "readonly" p.frozen
    (fun name value p =>
      let p := assignGiven "readonly" name value p
      { p with frozen := name :: p.frozen.filter (· != name) })
    arguments p

/-- Runs `local`, which keeps what a variable was before in mind. -/
def runLocal (arguments : List String) (p : Process) : Process :=
  match p.saved with
  | [] => p.failAs "local" "not in a function"
  | _ =>
    forEachVariable "local"
      (fun name value p =>
        match p.saved with
        | frame :: r =>
          let frame := if (frame.lookup name).isSome then frame else (name, p.value? name) :: frame
          assignGiven "local" name value { p with saved := frame :: r }
        | [] => p)
      arguments p

/-- Runs `unset`. -/
def runUnset (arguments : List String) (p : Process) : Process :=
  let (letters, rest) := splitLetters arguments
  match letters.find? fun c => c != 'f' && c != 'v' with
  | some c => p.failAs "unset" (illegalOption c)
  | none =>
    if letters.getLast? = some 'f' then
      { p with functions := p.functions.filter fun f => !rest.contains f.1 }.finish 0
    else
      forEachVariable "unset"
        (fun name _ p =>
          if p.frozen.contains name then p.failAs "unset" s!"{name}: is read only"
          else p.unassign name)
        rest p

/-! ## Reading lines -/

/-- The marks of a line, in which a backslash may protect the next character. -/
def lineMarks (raw : Bool) : List Char → List Mark
  | '\\' :: c :: r =>
    if raw then .loose '\\' :: lineMarks raw (c :: r) else .quoted c :: lineMarks raw r
  | c :: r => .loose c :: lineMarks raw r
  | [] => []

/-- Whether a mark divides fields, and whether it is a blank that does. -/
def divides (separators : List Char) (m : Mark) : Bool :=
  match m with
  | .loose c => separators.contains c
  | _ => false

/-- Whether a mark is a blank that divides fields. -/
def dividesLoosely (separators : List Char) (m : Mark) : Bool :=
  divides separators m && m.char?.any [' ', '\t', '\n'].contains

/-- The fields of a line for a number of variables, of which the last one gets all that is left. -/
def readFields (separators : List Char) : Nat → List Mark → List String
  | 0, _ => []
  | 1, l =>
    let blank := dividesLoosely separators
    [String.ofList (Mark.text ((l.dropWhile blank).reverse.dropWhile blank).reverse)]
  | n + 1, l =>
    let l := l.dropWhile (dividesLoosely separators)
    let field := l.takeWhile fun m => !divides separators m
    let rest := (l.drop field.length).dropWhile (dividesLoosely separators)
    let rest :=
      match rest with
      | m :: r => if divides separators m then r else rest
      | [] => []
    String.ofList (Mark.text field) :: readFields separators n rest

/-- A line of the input; lines that end with a backslash go on, unless it means nothing. -/
def takeLogicalLine (raw : Bool) : Nat → List UInt8 → Process → List UInt8 × Bool × Process
  | 0, before, p => (before, false, p)
  | n + 1, before, p =>
    let (line, ended, p) := p.takeLine
    let slashes := (line.reverse.takeWhile (· = 92)).length
    if !raw && ended && slashes % 2 = 1 then takeLogicalLine raw n (before ++ line.dropLast) p
    else (before ++ line, ended, p)

/-- The number of lines that are joined at most. -/
def maxJoinedLines : Nat := 1000

/-- Arguments without the prompt that `-p` gives, which no one would see. -/
def withoutPrompt : List String → List String
  | "-p" :: _ :: r => withoutPrompt r
  | "-r" :: r => "-r" :: withoutPrompt r
  | l => l

/-- Runs `read`. -/
def runRead (arguments : List String) (p : Process) : Process :=
  let (letters, names) := splitLetters (withoutPrompt arguments)
  let raw := letters.contains 'r'
  match letters.find? (· != 'r') with
  | some c => (p.warnAs "read" (illegalOption c)).finish 2
  | none =>
    match names.find? fun a => !Script.isName a.toList, names with
    | _, [] => (p.warnAs "read" "arg count").finish 2
    | some a, _ => (p.warnAs "read" s!"{a}: bad variable name").finish 2
    | none, names =>
      let (line, ended, p) := takeLogicalLine raw maxJoinedLines [] p
      p.ifRunning fun p =>
        let marks := lineMarks raw (Utf8.decode (line.filter (· != 0)))
        let fields := readFields (separators p) names.length marks
        match names.find? p.frozen.contains with
        | some a => (p.warnAs "read" s!"{a}: is read only").finish 2
        | none =>
          ((names.zip fields).foldl (fun p f => p.assign f.1 f.2) p).finish (if ended then 0 else 1)

/-! ## Signals and jobs -/

/-- The signal and the targets that arguments of `kill` name, or what is wrong with them. -/
def killRequest (arguments : List String) : Except String (String × List String) :=
  let named (text : String) (r : List String) : Except String (String × List String) :=
    match signalName? text with
    | some s => .ok (s, r)
    | none => .error s!"invalid signal number or name: {text}"
  match arguments with
  | "--" :: r => .ok ("TERM", r)
  | "-s" :: text :: r => named text r
  | ["-s"] => .error "No arg for -s option"
  | a :: r =>
    match a.toList with
    | '-' :: c :: cs =>
      match signalName? (String.ofList (c :: cs)) with
      | some s => .ok (s, r)
      | none => .error (illegalOption c)
    | _ => .ok ("TERM", arguments)
  | [] => .ok ("TERM", [])

/-- The job that a text names, by its number or, after a percent sign, by its place. -/
def jobNamed? (p : Process) (text : String) : Option Job :=
  match text.toList with
  | '%' :: l => (natOfDigits l).bind fun n => if n = 0 then none else p.jobs[n - 1]?
  | l => (natOfDigits l).bind fun n => p.jobs.find? (·.number == n)

/-- A signal goes to a process. A job's signal to another shell comes at its time. -/
def sendSignal (signal : String) (p : Process) (target : String) : Process :=
  let isGroup := target.startsWith "-"
  let digits := if isGroup then target.toList.tail else target.toList
  match jobNamed? p target, natOfDigits digits with
  | some j, _ => p.signalJob j signal
  | none, none =>
    if target.startsWith "%" then (p.warnAs "kill" s!"No such job: {target}").finish 2
    else
      let number := String.ofList digits
      (p.warnAs "kill" s!"Illegal number: {number}").finish 2
  | none, some n =>
    if isGroup ∨ n ≠ p.number then (p.warnAs "kill" "No such process\n").finish 1
    else if p.job = 0 then p.receive signal
    else { p with posted := p.posted ++ [(p.elapsed, signal)] }

/-- Runs `kill`. -/
def runKill (arguments : List String) (p : Process) : Process :=
  match arguments with
  | "-l" :: text :: _ =>
    match (natOfDigits text.toList).map fun n => if 128 < n then n - 128 else n with
    | some n =>
      match signalName? (toString n) with
      | some s => (p.print (s ++ "\n")).finish 0
      | none => (p.warnAs "kill" s!"invalid signal number or exit status: {text}").finish 2
    | none => (p.warnAs "kill" s!"Illegal number: {text}").finish 2
  | l =>
    match killRequest l with
    | .error e => (p.warnAs "kill" e).finish 2
    | .ok (_, []) =>
      (p.warnAs "kill" ("Usage: kill [-s sigspec | -signum | -sigspec] [pid | job]... or\n" ++
        "kill -l [exitstatus]")).finish 2
    | .ok (signal, targets) =>
      targets.foldl (fun p t => p.ifRunning fun p => sendSignal signal p t) (p.finish 0)

/-- Waits for one job. -/
def awaitJob (p : Process) (text : String) : Process :=
  match jobNamed? p text with
  | some j =>
    (p.waitFor j.ends).ifRunning fun p =>
      let said := (j.signal.map obituary).getD ""
      (if said.isEmpty then p else p.complain (said ++ "\n")).finish (j.status % 256)
  | none =>
    if text.startsWith "%" then (p.warnAs "wait" s!"No such job: {text}").finish 2
    else if (natOfDigits text.toList).isSome then p.finish 127
    else (p.warnAs "wait" s!"Illegal number: {text}").finish 2

/-- Runs `wait`. -/
def runWait (arguments : List String) (p : Process) : Process :=
  match splitLetters arguments with
  | (c :: _, _) => (p.warnAs "wait" (illegalOption c)).finish 2
  | ([], []) =>
    let p := p.jobs.foldl (fun p j => p.ifRunning fun p => p.waitFor j.ends) p
    p.ifRunning (·.finish 0)
  | ([], jobs) => jobs.foldl (fun p a => p.ifRunning fun p => awaitJob p a) (p.finish 0)

/-- Sets what is done about a signal, if it is one. -/
def setTrap (action : Option String) (p : Process) (text : String) : Process :=
  match signalName? text with
  | none => (p.complain s!"trap: {text}: bad trap\n").finish 1
  | some s =>
    let others := p.traps.filter (·.1 != s)
    { p with traps := match action with | some a => (s, a) :: others | none => others }

/-- Runs `trap`. -/
def runTrapSetting (arguments : List String) (p : Process) : Process :=
  match splitLetters arguments with
  | (c :: _, _) => p.failAs "trap" (illegalOption c)
  | ([], []) =>
    let known := signalNumbers.filterMap fun s => (p.traps.lookup s.1).map (s.1, ·)
    let lines := known.map fun t => s!"trap -- {inQuotes t.2} {t.1}\n"
    (p.print (String.join lines)).finish 0
  | ([], [only]) => setTrap none (p.finish 0) only
  | ([], action :: signals) =>
    signals.foldl (setTrap (if action == "-" then none else some action)) (p.finish 0)

/-- The commands of the shell that need nothing but the shell itself. -/
def builtin? : String → Option (List String → Process → Process)
  | "cd" => some runChange
  | "pwd" => some runWhere
  | "exit" => some runExit
  | "return" => some runReturn
  | "break" => some (runLeave "break" .left)
  | "continue" => some (runLeave "continue" .skipped)
  | "shift" => some runShift
  | "set" => some runSet
  | "export" => some runExport
  | "readonly" => some runReadonly
  | "local" => some runLocal
  | "unset" => some runUnset
  | "read" => some runRead
  | "kill" => some runKill
  | "wait" => some runWait
  | "trap" => some runTrapSetting
  | "alias" => some fun _ p => p.finish 0
  | "jobs" => some fun _ p => p.finish 0
  | "umask" => some fun _ p => (p.print "0022\n").finish 0
  | "true" => some fun _ p => p.finish 0
  | ":" => some fun _ p => p.finish 0
  | "false" => some fun _ p => p.finish 1
  | _ => none

end RemoteSearch.Machine

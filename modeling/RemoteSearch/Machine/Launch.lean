import RemoteSearch.Machine.Builtins
import RemoteSearch.Machine.Redirect
import RemoteSearch.Machine.Tools

/-!
# Launching commands

How a shell finds the command that a word names: a function, a command of its own, a tool, or a file
with a script. Some commands run others: with other variables, for less time, or for each part of
the input.
-/

namespace RemoteSearch.Machine

open Text

/-! ## Shells -/

/-- A shell as another one begins it: only what is exported is passed on. -/
def newShell (name : String) (options : List Char) (arguments : List String) (p : Process) :
    Process :=
  { p with
    name, options, arguments
    number := p.nextNumber
    nextNumber := p.nextNumber + 1
    bindings := p.bindings.filter fun b => p.exported.contains b.1
    functions := []
    saved := []
    frozen := []
    traps := p.traps.filter (·.2.isEmpty)
    jobs := []
    caller := ""
    line := 1
    loops := 0
    tested := false }

/-- Goes on after a process that may have been ended by a signal. -/
def joinProcess (p inner : Process) : Process :=
  let joined := (p.shareWith inner).waitFor inner.ends
  match inner.halt with
  | some (.killed s) =>
    let said := obituary s
    (if said.isEmpty then joined else joined.complain (said ++ "\n")).finish (signalStatus s)
  | _ => if joined.halt.isSome then joined else joined.finish (inner.status % 256)

/-- Runs a text as a shell of its own. -/
def runShell (e : Engine) (name : String) (options : List Char) (arguments : List String)
    (text : String) (p : Process) : Process :=
  joinProcess p (conclude e (runText e 1 text (newShell name options arguments p)))

/-- The letters of the options of a shell, after some that are on, and its other arguments. -/
def shellLetters (on : List Char) : List String → Except Char (List Char × List String)
  | [] => .ok (on, [])
  | "-" :: r => .ok (on, r)
  | "--" :: r => .ok (on, r)
  | "-o" :: name :: r => shellLetters (on ++ (optionNames.lookup name).toList) r
  | a :: r =>
    match a.toList with
    | '-' :: l =>
      match l.find? fun c => !(['c', 'l'] ++ optionLetters).contains c with
      | some c => .error c
      | none => shellLetters (on ++ l) r
    | '+' :: l => shellLetters (on.filter fun c => !l.contains c) r
    | _ => .ok (on, a :: r)

/-- Runs `sh`. -/
def runShellTool (e : Engine) (arguments : List String) (p : Process) : Process :=
  let trouble (text : String) : Process := (p.complain s!"sh: 0: {text}\n").finish 2
  match shellLetters [] arguments with
  | .error c => trouble (illegalOption c)
  | .ok (letters, rest) =>
    let options := optionLetters.filter letters.contains
    if letters.contains 'c' then
      match rest with
      | [] => trouble "-c requires an argument"
      | text :: rest => runShell e (rest.headD "sh") options rest.tail text p
    else if letters.contains 's' || rest.isEmpty then
      let (content, p) := p.takeInput
      p.ifRunning (runShell e "sh" options rest (Utf8.decodeString content))
    else
      let path := rest.headD ""
      match p.readFile path with
      | .ok content => runShell e path options rest.tail (Utf8.decodeString content) p
      | .error _ => trouble s!"cannot open {path}: No such file"

/-! ## Files that can be run -/

/-- The first line of a script that says what is to run it. -/
def interpreter? (content : List UInt8) : Option String :=
  match content with
  | 35 :: 33 :: r =>
    some (Utf8.decodeString ((r.takeWhile (· != 10)).dropWhile (· = 32)))
  | _ => none

/-- Interpreters that are shells. -/
def shellPaths : List String :=
  ["/bin/sh", "/usr/bin/sh", "/bin/dash", "/usr/bin/dash", "/usr/bin/env sh", "/bin/sh -e",
    "/bin/bash", "/usr/bin/env bash"]

/-- Runs a file. -/
def runFile (e : Engine) (path : String) (arguments : List String) (p : Process) : Process :=
  match p.tree.find p.here path with
  | .error _ => (p.warn s!"{path}: not found").finish 127
  | .ok (_, .file mode content) =>
    if !mode.text.contains 'x' then (p.warn s!"{path}: Permission denied").finish 126
    else if (interpreter? content).all shellPaths.contains then
      runShell e path [] arguments (Utf8.decodeString content) p
    else (p.warn s!"{path}: not found").finish 127
  | .ok _ => (p.warn s!"{path}: Permission denied").finish 126

/-! ## What names mean -/

/-- What a name stands for as a command. -/
inductive Meaning where
  | function (body : Script)
  /-- A command that the shell has in itself. -/
  | inner
  /-- A command that is a file of its own. -/
  | outer
  | path
  | missing

/-- The commands of the shell that run others. -/
def callingNames : List String := ["eval", ".", "exec", "command", "type"]

/-- The tools that run others. -/
def callingTools : List String :=
  ["sh", "dash", "env", "xargs", "timeout", "nice", "nohup", "setsid"]

/-- The meaning of a name. -/
def meaningOf (p : Process) (name : String) : Meaning :=
  match p.functions.lookup name with
  | some body => .function body
  | none =>
    if callingNames.contains name || (builtin? name).isSome || (innerTool? name).isSome then .inner
    else if callingTools.contains name || (outerTool? name).isSome then .outer
    else if name.toList.contains '/' then .path
    else .missing

/-- The path of a tool. -/
def toolPath (name : String) : String := "/usr/bin/" ++ name

/-- What `type` says of a name. -/
def describeName (p : Process) (name : String) : String :=
  if Script.keywords.contains name then s!"{name} is a shell keyword"
  else
    match meaningOf p name with
    | .function _ => s!"{name} is a shell function"
    | .inner =>
      if Script.specialNames.contains name then s!"{name} is a special shell builtin"
      else s!"{name} is a shell builtin"
    | .outer => s!"{name} is {toolPath name}"
    | .path => if isThere p name then s!"{name} is {name}" else s!"{name}: not found"
    | .missing => s!"{name}: not found"

/-- What `command -v` says of a name, if it means something. -/
def locateName? (p : Process) (name : String) : Option String :=
  if Script.keywords.contains name then some name
  else
    match meaningOf p name with
    | .outer => some (toolPath name)
    | .path => if isThere p name then some name else none
    | .missing => none
    | _ => some name

/-! ## Calls -/

/-- Calls a function. Its own variables are given back what they were. -/
def callFunction (e : Engine) (body : Script) (arguments : List String) (p : Process) : Process :=
  let q := e.run body { p with arguments, saved := [] :: p.saved, loops := 0 }
  let q := (q.saved.headD []).foldl Process.restore q
  { q with
    arguments := p.arguments, saved := p.saved, loops := p.loops
    halt := if q.halt = some .returned then none else q.halt }

/-- Runs a file in the shell itself. -/
def runDot (e : Engine) (arguments : List String) (p : Process) : Process :=
  match arguments with
  | [] => p.finish 0
  | path :: _ =>
    if !path.toList.contains '/' then p.failAs "." s!"{path}: not found"
    else
      match p.readFile path with
      | .error er => p.failAs "." s!"cannot open {path}: {openTrouble er}"
      | .ok content =>
        let q := runTextFor e path (Utf8.decodeString content) p
        { q with halt := if q.halt = some .returned then none else q.halt }

/-- The arguments after settings of variables, and the shell with these. -/
def withSettings (p : Process) : List String → Process × List String
  | [] => (p, [])
  | a :: r =>
    match splitSetting a with
    | (name, some value) =>
      withSettings { p.assign name value with exported := name :: p.exported } r
    | (_, none) => (p, a :: r)

/-- The words of the input of `xargs`, which quotes may hold together; the flag tells where. -/
def argumentWords (word : Option (List Char)) (quote : Option Char) : List Char → List String
  | [] => (word.map fun w => String.ofList w.reverse).toList
  | c :: r =>
    match quote with
    | some q =>
      if q = '\\' then argumentWords (some (c :: word.getD [])) none r
      else if c = q then argumentWords (some (word.getD [])) none r
      else argumentWords (some (c :: word.getD [])) quote r
    | none =>
      if [' ', '\t', '\n'].contains c then
        (word.map fun w => String.ofList w.reverse).toList ++ argumentWords none none r
      else if ['\'', '"', '\\'].contains c then argumentWords word (some c) r
      else argumentWords (some (c :: word.getD [])) none r

/-- Some items in groups of a size. -/
def groupsOf {α : Type} (size : Nat) (l : List α) : List (List α) :=
  if size = 0 then [l]
  else (List.range ((l.length + size - 1) / size)).map fun n => (l.drop (n * size)).take size

/-- A text in which each place of a mark is taken by another text. -/
def replaceAll (mark other text : String) : String :=
  if mark.isEmpty then text else other.intercalate (text.splitOn mark)

/-- The command lines that `xargs` makes of its arguments and its input, unless it refuses. -/
def commandLines (arguments : List String) (input : List UInt8) : Option (List (List String)) :=
  let text := Utf8.decodeString input
  let withItems (size : Nat) (spares : Bool) (items : List String) (command : List String) :
      List (List String) :=
    let command := if command.isEmpty then ["echo"] else command
    if items.isEmpty then if spares then [] else [command]
    else (groupsOf size items).map (command ++ ·)
  let words := argumentWords none none text.toList
  let placed (mark : String) (command : List String) : List (List String) :=
    ((Text.lines text).filter (!·.isEmpty)).map fun line => command.map (replaceAll mark line)
  match arguments with
  | "-0" :: r =>
    some (withItems 0 false ((text.splitOn "\x00").filter (!·.isEmpty)) r)
  | "-r" :: r => some (withItems 0 true words r)
  | "-n" :: n :: r => (natOfDigits n.toList).map fun n => withItems n false words r
  | "-n1" :: r => some (withItems 1 false words r)
  | "-I" :: mark :: r => some (placed mark r)
  | a :: r =>
    match a.toList with
    | '-' :: 'I' :: mark => some (placed (String.ofList mark) r)
    | '-' :: _ => none
    | _ => some (withItems 0 false words (a :: r))
  | [] => some (withItems 0 false words [])

mutual

/-- Runs a tool, or a file by its path, in a process of its own. -/
def runTool (e : Engine) (fuel : Nat) (name : String) (arguments : List String) (p : Process) :
    Process :=
  match fuel with
  | 0 => p.finish 126
  | fuel + 1 =>
    if callingTools.contains name then runCallingTool e fuel name arguments p
    else
      match outerTool? name with
      | some tool => tool arguments p
      | none =>
        if name.toList.contains '/' then
          match toolNamed? name with
          | some tool => runTool e fuel tool arguments p
          | none => runFile e name arguments p
        else
          -- a directory is found where there is no name
          let why := if name.isEmpty then "Permission denied" else "not found"
          (p.warn s!"{name}: {why}").finish 127

/-- Runs a tool that runs others. -/
def runCallingTool (e : Engine) (fuel : Nat) (name : String) (arguments : List String)
    (p : Process) : Process :=
  match fuel with
  | 0 => p.finish 126
  | fuel + 1 =>
    let missing (tool word : String) (p : Process) : Process :=
      (p.complain s!"{tool}: '{word}': No such file or directory\n").finish 127
    let isKnown (word : String) : Bool :=
      callingTools.contains word || (outerTool? word).isSome || isThere p word
    match name with
    | "env" =>
      let cleared := arguments.head? = some "-i"
      let begun := if cleared then { p with exported := [] } else p
      let (q, rest) := withSettings begun (if cleared then arguments.tail else arguments)
      match rest with
      | [] =>
        let line (n : String) : String := s!"{n}={q.value n}\n"
        (p.print (String.join (q.exported.map line))).finish 0
      | word :: r =>
        if word.toList.contains '/' || isKnown word then
          let ran := runTool e fuel word r q
          { ran with bindings := p.bindings, exported := p.exported }
        else missing "env" word p
    | "timeout" =>
      match arguments with
      | limit :: word :: r =>
        match milliseconds? limit.toList with
        | none => refuse "timeout" s!"invalid time interval '{limit}'" 125 p
        | some time =>
          if !isKnown word then
            (p.complain
              s!"timeout: failed to run command '{word}': No such file or directory\n").finish 127
          else
            let ending := p.elapsed + time
            let inner := runTool e fuel word r { p with budget := min p.budget ending }
            let ran := { inner with budget := p.budget }
            if inner.halt = some .expired ∧ ending ≤ p.budget then
              { ran with halt := none, elapsed := ending, status := 124 }
            else ran
      | _ => refuse "timeout" "missing operand" 125 p
    | "xargs" =>
      let (content, p) := p.takeInput
      match commandLines arguments content with
      | none => (p.complain "xargs: invalid option\n").finish 1
      | some lines =>
        lines.foldl
          (fun p line =>
            p.ifRunning fun p =>
              match line with
              | [] => p
              | word :: r =>
                if isKnown word then
                  let table := p.table
                  let q := runTool e fuel word r ((p.openStream 0 .nothing).finish 0)
                  let q := q.point 0 (table.lookup 0)
                  { q with status := if q.status = 0 then p.status else 123 }
                else (p.complain s!"xargs: {word}: No such file or directory\n").finish 127)
          (p.finish 0)
    | "nice" => runPassing e fuel arguments p
    | "nohup" => runPassing e fuel arguments p
    | "setsid" => runPassing e fuel arguments p
    | _ => runShellTool e arguments p

/-- Runs the command that the arguments are. -/
def runPassing (e : Engine) (fuel : Nat) (arguments : List String) (p : Process) : Process :=
  match fuel, arguments with
  | fuel + 1, word :: r => runTool e fuel word r p
  | _, _ => p.finish 125

end

/-- The number of tools that may run one another. -/
def maxToolNesting : Nat := 100

/-- Runs a command by its name; `functions` tells whether it may be one. -/
def runNamed (e : Engine) (functions : Bool) (name : String) (arguments : List String)
    (p : Process) : Process :=
  match if functions then p.functions.lookup name else none with
  | some body => callFunction e body arguments p
  | none =>
    match name, builtin? name, innerTool? name with
    | "eval", _, _ =>
      -- the text sees the status from before
      let q := runTextFor e "eval" (" ".intercalate arguments) p
      if (" ".intercalate arguments).toList.all Shell.Arithmetic.isBlank then q.finish 0 else q
    | ".", _, _ => runDot e arguments p
    | "type", _, _ =>
      arguments.foldl
        (fun p n =>
          let said := describeName p n
          (p.print (said ++ "\n")).finish (if said.endsWith ": not found" then 127 else p.status))
        (p.finish 0)
    | _, some b, _ => b arguments p
    | _, _, some t =>
      let q := t arguments p
      if (name == "echo" || name == "printf") && (p.table.lookup 1).isNone && q.status = 0 then
        (q.warnAs name s!"{name}: I/O error").finish 1
      else q
    | _, _, _ => runTool e maxToolNesting name arguments p

/-- Runs the words of a command. -/
def runWords (e : Engine) (words : List String) (p : Process) : Process :=
  match words with
  | [] => p
  | ["exec"] => p.finish 0
  | "exec" :: name :: arguments =>
    let begun := { p with traps := p.traps.filter (·.1 != "EXIT") }
    match meaningOf { p with functions := [] } name with
    | .missing => (begun.warnAs "exec" s!"{name}: not found").stop 127 .exited
    | _ =>
      let q := runNamed e false name arguments begun
      if q.halt.isSome then q else q.stop q.status .exited
  | "command" :: "-v" :: names =>
    names.foldl
      (fun p n =>
        match locateName? p n with
        | some text => p.print (text ++ "\n")
        | none => p.finish 127)
      (p.finish 0)
  | "command" :: "-V" :: names => runNamed e false "type" names p
  | "command" :: "-p" :: name :: arguments => runNamed e false name arguments p
  | ["command"] => p.finish 0
  | "command" :: name :: arguments => runNamed e false name arguments p
  | name :: arguments => runNamed e true name arguments p

end RemoteSearch.Machine

import RemoteSearch.Machine.Launch

/-!
# Running scripts

A script as what it does to a process. Shells that run side by side, as the parts of a pipeline do
and what is not waited for, are run one after another, each with a clock of its own; what they write
carries its time, so that it comes to the reader in the right order.

## Termination

Scripts are run by recursion on their structure. What they call on (functions, texts that become
scripts) is run one level further down, of which there are only so many, and loops have only so many
rounds in the time that there is.
-/

namespace RemoteSearch.Machine

open Text

/-! ## Simple commands -/

/-- Makes assignments, each of which sees those before it. -/
def assignAll (e : Engine) (assignments : List Assignment) (p : Process) :
    List (String × String) × Process :=
  let (made, p) := assignments.foldl
    (fun (made, p) a =>
      if p.halt.isSome then (made, p)
      else
        let (v, p) := expandValue e a.value p
        ((a.name, v) :: made, p.ifRunning fun p => p.assignChecked a.name v))
    (([] : List (String × String)), p)
  (made.reverse, p)

/-- A line that shows what is about to run. -/
def traceLine (assigned : List (String × String)) (words : List String) : String :=
  "+ " ++ " ".intercalate (assigned.map (fun a => s!"{a.1}={a.2}") ++ words) ++ "\n"

/-- Shows what is about to run, if this is wanted. -/
def trace (assigned : List (String × String)) (words : List String) (p : Process) : Process :=
  if p.hasOption 'x' then p.complain (traceLine assigned words) else p

/-- Runs a command with words. Assignments last longer than it only if it is a special one. -/
def runCommand (e : Engine) (assignments : List Assignment) (words : List String) (p : Process) :
    Process :=
  let name := words.headD ""
  let isSpecial := Script.specialNames.contains name && (p.functions.lookup name).isNone
  let before := assignments.map fun a => (a.name, p.value? a.name)
  let (assigned, q) := assignAll e assignments p
  q.ifRunning fun q =>
    let q := trace assigned words q
    if assignments.isEmpty then runWords e words q
    else if isSpecial then runWords e words q
    else
      let exported := q.exported
      let ran := runWords e words { q with exported := assignments.map (·.name) ++ exported }
      before.foldl Process.restore { ran with exported }

/-- Runs a simple command. -/
def runSimple (e : Engine) (line : Nat) (assignments : List Assignment) (words : List Word)
    (redirections : List Redirection) (p : Process) : Process :=
  let begun := { p with line, substitution := none, lasting := false }
  let (words, q) := expandWords e words begun
  q.ifRunning fun q =>
    let p := { q with lasting := p.lasting }
    match words with
    | [] =>
      match redirectAll e redirections p with
      | .error q => undo redirections p.table q
      | .ok q =>
        let (assigned, q) := assignAll e assignments (undo redirections p.table q)
        q.ifRunning fun q =>
          (if assigned.isEmpty then q else trace assigned [] q).finish (q.substitution.getD 0)
    | ["exec"] =>
      match redirectAll e redirections p with
      | .ok q => { q with lasting := false }.finish 0
      | .error q => q.ifRunning fun q => q.stop q.status .exited
    | name :: _ =>
      let isSpecial := Script.specialNames.contains name && (p.functions.lookup name).isNone
      match redirectAll e redirections p with
      | .ok q =>
        afterRedirection redirections p
          (runCommand e assignments words { q with lasting := false })
      | .error q =>
        let q := undo redirections p.table q
        if isSpecial then q.ifRunning fun q => q.stop q.status .exited else q

/-- Takes the signals that other jobs have sent by now. -/
def takePosted (p : Process) : Process :=
  if p.job ≠ 0 then p
  else
    let (due, later) := p.posted.partition fun s => s.1 ≤ p.elapsed
    due.foldl (fun p s => p.ifRunning (·.receive s.2)) { p with posted := later }

/-- Runs what is to be run at the signals that have come. -/
def answerSignals (e : Engine) (p : Process) : Process :=
  p.ifRunning fun p =>
    (takePosted p).ifRunning fun p =>
      p.signals.foldl (fun p s => p.ifRunning (runTrap e s)) { p with signals := [] }

/-- Ends the shell after a failure that no one asks for, if this is wanted. -/
def exitOnFailure (p : Process) : Process :=
  p.ifRunning fun p =>
    if p.hasOption 'e' && !p.tested && p.status != 0 then p.stop p.status .exited else p

/-! ## Shells in shells -/

/-- Runs something in a shell of its own. -/
def runApart (e : Engine) (body : Process → Process) (p : Process) : Process :=
  p.joinShell (conclude e (body p.branch))

/-- Runs two things side by side, where the second one reads what the first one writes. -/
def runPipe (e : Engine) (left right : Process → Process) (p : Process) : Process :=
  let k := p.streams.size
  let source := conclude e (left (p.branch.openStream 1 (.sink [] [])))
  let pipe := (source.streams[k]?.getD .nothing).reversed
  let between := { p.shareWith source with streams := (source.streams.take k).push pipe }
  let target := conclude e (right (between.branch.point 0 (some k)))
  let joined := (p.shareWith target).waitFor (later source.ends target.ends)
  match source.halt, target.halt with
  | some (.killed s), _ => joined.stop source.status (.killed s)
  | _, some (.killed s) => joined.stop target.status (.killed s)
  | _, _ => joined.finish (target.status % 256)

/-- Whether a script does nothing. -/
def Script.isNothing : Script → Bool
  | nothing => true
  | _ => false

/-- Whether a script is one command only. -/
def Script.isSimple : Script → Bool
  | simple .. => true
  | redirected body _ => body.isSimple
  | _ => false

/-- Begins something and does not wait for it; it begins a moment later. -/
def runBehind (e : Engine) (simple : Bool) (body : Process → Process) (p : Process) : Process :=
  let number := p.nextNumber
  let begun : Process :=
    { p.branch.openStream 0 .nothing with
      job := number, nextNumber := number + 1, elapsed := p.elapsed + 1 }
  let inner := conclude e (body begun)
  let signal :=
    match inner.halt with
    | some (.killed s) => some s
    | _ => none
  let job : Job := { number, ends := inner.ends, status := inner.status % 256, signal, simple }
  ({ p.shareWith inner with jobs := p.jobs ++ [job] }.assign "!" (toString number)).finish 0

/-! ## Loops -/

/-- The number of rounds of a loop in a millisecond. -/
def roundsPerMillisecond : Nat := 100

/-- What a round of a loop leaves: whether the loop goes on, and the shell without its request. -/
def afterRound (p : Process) : Bool × Process :=
  match p.halt with
  | some (.left n) => (false, { p with halt := if n ≤ 1 then none else some (.left (n - 1)) })
  | some (.skipped n) =>
    if n ≤ 1 then (true, { p with halt := none })
    else (false, { p with halt := some (.skipped (n - 1)) })
  | some _ => (false, p)
  | none => (true, p)

/-- Runs something with its status asked for. -/
def tested (body : Process → Process) (p : Process) : Process :=
  { body { p with tested := true, lasting := false } with tested := p.tested, lasting := p.lasting }

/-- Runs something that something else follows. -/
def followed (body : Process → Process) (p : Process) : Process :=
  { body { p with lasting := false } with lasting := p.lasting }

/-- Runs rounds of a loop for as long as its condition is as wanted. -/
def runRounds (wanted : Bool) (condition body : Process → Process) :
    Nat → Nat → Process → Process
  | 0, _, p => p.expire
  | n + 1, last, p =>
    match afterRound (tested condition p) with
    | (false, p) => p
    | (true, p) =>
      if (p.status == 0) != wanted then p.finish last
      else
        match afterRound (body p) with
        | (false, p) => p
        | (true, p) => runRounds wanted condition body n p.status p

/-- Runs a loop. -/
def runLoop (wanted : Bool) (condition body : Process → Process) (p : Process) : Process :=
  let rounds := roundsPerMillisecond * (p.budget + 1)
  let ran := runRounds wanted condition body rounds 0 { p with loops := p.loops + 1 }
  { ran with loops := p.loops }

/-- Runs something for each of some words; `last` is the status of the round before. -/
def runEach (name : String) (body : Process → Process) (last : Nat) :
    List String → Process → Process
  | [], p => p.finish last
  | w :: r, p =>
    match afterRound ((p.assignChecked name w).ifRunning body) with
    | (false, p) => p
    | (true, p) => runEach name body p.status r p

/-! ## Scripts -/

/-- Whether a text matches one of some patterns, which are looked at one after another. -/
def matchesAny (e : Engine) (text : String) : List Word → Process → Bool × Process
  | [], p => (false, p)
  | w :: r, p =>
    let (marks, p) := expandWord e w p
    if p.halt.isSome then (false, p)
    else if Unix.Glob.isMatch (Mark.glob marks) text.toList then (true, p)
    else matchesAny e text r p

mutual

/-- Runs a script, which calls on an engine. -/
def Script.runWith (e : Engine) : Script → Process → Process
  | .nothing, p => p
  | .simple line assignments words redirections, p =>
    if p.hasOption 'n' then p
    else exitOnFailure (answerSignals e (runSimple e line assignments words redirections p))
  | .redirected body redirections, p => withRedirections e redirections (body.runWith e) p
  | .pipe left right, p => exitOnFailure (runPipe e (left.runWith e) (right.runWith e) p)
  | .negated body, p =>
    (tested (body.runWith e) p).ifRunning fun p => p.finish (if p.status = 0 then 1 else 0)
  | .joined left .always right, p => (followed (left.runWith e) p).ifRunning (right.runWith e)
  | .joined left joint right, p =>
    (tested (left.runWith e) p).ifRunning fun p =>
      if joint.admits p.status then right.runWith e p else p
  | .background body, p => runBehind e body.isSimple (body.runWith e) p
  | .apart body, p => exitOnFailure (runApart e (body.runWith e) p)
  | .choice condition yes no, p =>
    (tested (condition.runWith e) p).ifRunning fun p =>
      if p.status = 0 then yes.runWith e p
      else if no.isNothing then p.finish 0
      else no.runWith e p
  | .loop wanted condition body, p =>
    followed (runLoop wanted (condition.runWith e) (body.runWith e)) p
  | .each name words body, p =>
    let (words, p) := expandWords e words p
    p.ifRunning fun p =>
      let ran := runEach name (followed (body.runWith e)) 0 words { p with loops := p.loops + 1 }
      { ran with loops := p.loops }
  | .select word arms, p =>
    let (text, p) := expandText e word p
    p.ifRunning (arms.runWith e text)
  | .define name body, p =>
    { p with functions := (name, body) :: p.functions.filter (·.1 != name) }.finish 0

/-- Runs the first arm that a text matches. -/
def Arms.runWith (e : Engine) (text : String) : Arms → Process → Process
  | .none, p => p.finish 0
  | .arm patterns body rest, p =>
    let (found, p) := matchesAny e text patterns p
    p.ifRunning fun p =>
      if !found then rest.runWith e text p
      else if body.isNothing then p.finish 0
      else body.runWith e p

end

/-- The number of levels on which scripts call on one another. -/
def maxLevels : Nat := 1000

/-- What is said where there are no more levels. -/
def tooManyLevels : String := s!"Maximum function recursion depth ({maxLevels}) reached"

/-- The engine with a number of levels below it. -/
def Engine.ofLevels : Nat → Engine
  | 0 => { run := fun _ p => p.fail tooManyLevels, expand := fun _ p => ([], p.fail tooManyLevels) }
  | n + 1 =>
    let below := Engine.ofLevels n
    { run := Script.runWith below, expand := expandWord below }

/-- The engine by which texts are run. -/
def Engine.full : Engine := Engine.ofLevels maxLevels

/-- Runs a text to the end of its shell. -/
def Process.runAll (text : String) (p : Process) : Process :=
  conclude Engine.full (runText Engine.full 1 text p)

end RemoteSearch.Machine

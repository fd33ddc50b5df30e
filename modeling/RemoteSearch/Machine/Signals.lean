import RemoteSearch.Machine.Process

/-!
# Signals

What processes send to one another, and what a shell does about it: a signal may be trapped, or
without effect, or else it ends the shell, or stops it for good.
-/

namespace RemoteSearch.Machine

/-- The signals with their numbers. -/
def signalNumbers : List (String × Nat) :=
  [("EXIT", 0), ("HUP", 1), ("INT", 2), ("QUIT", 3), ("ILL", 4), ("TRAP", 5), ("ABRT", 6),
    ("BUS", 7), ("FPE", 8), ("KILL", 9), ("USR1", 10), ("SEGV", 11), ("USR2", 12), ("PIPE", 13),
    ("ALRM", 14), ("TERM", 15), ("CHLD", 17), ("CONT", 18), ("STOP", 19), ("TSTP", 20),
    ("TTIN", 21), ("TTOU", 22), ("URG", 23), ("XCPU", 24), ("XFSZ", 25), ("VTALRM", 26),
    ("PROF", 27), ("WINCH", 28), ("IO", 29), ("PWR", 30), ("SYS", 31)]

/-- The name of a signal that a text means, by name or by number. -/
def signalName? (text : String) : Option String :=
  let l := text.toList
  let found :=
    if !l.isEmpty && l.all Char.isDigit then
      let n := l.foldl (fun n c => 10 * n + (c.toNat - 48)) 0
      signalNumbers.find? (·.2 == n)
    else
      let name := String.ofList (l.map Char.toUpper)
      signalNumbers.find? (·.1 == name)
  found.map (·.1)

/-- The number of a signal. -/
def signalNumber (name : String) : Nat := (signalNumbers.lookup name).getD 0

/-- What is said of a process that a signal has ended. -/
def obituary (signal : Nat) : String :=
  match signal with
  | 1 => "Hangup"
  | 3 => "Quit"
  | 4 => "Illegal instruction"
  | 5 => "Trace/breakpoint trap"
  | 6 => "Aborted"
  | 7 => "Bus error"
  | 8 => "Floating point exception"
  | 9 => "Killed"
  | 10 => "User defined signal 1"
  | 11 => "Segmentation fault"
  | 12 => "User defined signal 2"
  | 14 => "Alarm clock"
  | 15 => "Terminated"
  | _ => ""

/-- The status of a process that a signal has ended. -/
def signalStatus (signal : Nat) : Nat := 128 + signal

/-- Signals that change nothing unless they are trapped. -/
def isHarmless (name : String) : Bool := ["EXIT", "CHLD", "CONT", "URG", "WINCH"].contains name

/-- Signals that stop a process. -/
def isStopping (name : String) : Bool := ["STOP", "TSTP", "TTIN", "TTOU"].contains name

namespace Process

/-- A signal comes to the shell. -/
def receive (p : Process) (name : String) : Process :=
  match if name == "KILL" || name == "STOP" then none else p.traps.lookup name with
  | some action => if action.isEmpty then p else { p with signals := p.signals ++ [name] }
  | none =>
    if isHarmless name then p
    else if isStopping name then p.expire
    else p.stop (signalStatus (signalNumber name)) (.killed (signalNumber name))

/-- A signal comes to a job, which goes no further then. -/
def signalJob (p : Process) (j : Job) (name : String) : Process :=
  let ended := j.ends.any (· ≤ p.elapsed)
  if ended || isHarmless name || isStopping name then p
  else
    let n := signalNumber name
    let after : Job :=
      { j with ends := some p.elapsed, status := signalStatus n, signal := some n }
    { p with
      jobs := p.jobs.map fun k => if k.number = j.number then after else k
      streams :=
        if j.simple then p.streams.map (Stream.withoutJob j.number p.elapsed) else p.streams }

end Process

end RemoteSearch.Machine

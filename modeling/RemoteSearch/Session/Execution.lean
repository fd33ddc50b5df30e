import RemoteSearch.Session.Action
import RemoteSearch.Shell
import RemoteSearch.Text.Blank
import RemoteSearch.Text.Excerpt
import RemoteSearch.Timeouts

/-!
# Running commands

Commands run once, under the budget of a tier. A command that ends is a success whatever its exit
code; one that is given up is an error that carries what it had written so far.
-/

namespace RemoteSearch.Execution

open Text

variable {σ : Type}

/-- Writes an event into the log, with an excerpt of the text that it is about. -/
def note (event text : String) : Action σ Unit := Action.home (.note event (excerpt text))

/-- Runs a command under the budget of a tier. -/
def execute (budgets : Budgets) (command : String) (tier : Tier) : Action σ Outcome := do
  note "executing" command
  let outcome ← Action.call (.execute command (budgets tier))
  if outcome.timedOut then
    note "command timed out" command
    throw (.exec (.timeout command (1000 * outcome.duration) outcome.stdout))
  else
    pure outcome

/-- Runs a command, for what it writes. -/
def run (budgets : Budgets) (command : String) (tier : Tier) : Action σ String := do
  let outcome ← execute budgets command tier
  pure outcome.stdout

/-- Runs a command with what it writes sent to a file on the host. -/
def runInto (budgets : Budgets) (shell : Shell) (command path : String) (tier : Tier) :
    Action σ Unit := do
  let outcome ← execute budgets (shell.redirect command path) tier
  if !allBlank outcome.stderr then
    note "search wrote diagnostics" (trimmed outcome.stderr)

end RemoteSearch.Execution

import RemoteSearch.Text.Split

/-!
# Shells

The two command languages in which a host is spoken to, and how a text is written in them so that
it stays one argument.
-/

namespace RemoteSearch

open Text

/-- A command language. -/
inductive Shell where
  | posix
  | powershell
  deriving Repr, DecidableEq, Inhabited

namespace Shell

/-- Each occurrence of `c` replaced by `by'`. -/
def replaceChar (c : Char) (by' : List Char) (l : List Char) : List Char :=
  l.flatMap fun d => if d = c then by' else [d]

theorem replaceChar_append (c : Char) (r a b : List Char) :
    replaceChar c r (a ++ b) = replaceChar c r a ++ replaceChar c r b := List.flatMap_append

theorem replaceChar_of_notMem {c : Char} {r l : List Char} (h : c ∉ l) : replaceChar c r l = l := by
  induction l with
  | nil => rfl
  | cons d l ih =>
    rw [List.mem_cons, not_or] at h
    have hd : replaceChar c r (d :: l) = (if d = c then r else [d]) ++ replaceChar c r l := rfl
    rw [hd, if_neg (Ne.symm h.1), ih h.2]
    rfl

/-- Characters that a POSIX shell takes as they are, wherever they stand in a word. -/
def isPlain (c : Char) : Bool :=
  c.isAlphanum || ['/', '.', '_', '-', '+', ':', ',', '@', '%'].contains c

/-- The POSIX word for a text: plain texts as they are, all others in single quotes. -/
def quotePosix (l : List Char) : List Char :=
  if !l.isEmpty && l.all isPlain then l
  else '\'' :: replaceChar '\'' ['\'', '\\', '\'', '\''] l ++ ['\'']

/-- The PowerShell literal for a text: in single quotes, each quote doubled. -/
def quotePowerShell (l : List Char) : List Char :=
  '\'' :: replaceChar '\'' ['\'', '\''] l ++ ['\'']

/-- The POSIX word for a string. -/
def word (s : String) : String := String.ofList (quotePosix s.toList)

/-- A string as one argument of the shell. -/
def quote (sh : Shell) (s : String) : String :=
  match sh with
  | posix => word s
  | powershell => String.ofList (quotePowerShell s.toList)

/-- The command with its output sent to a file. -/
def redirect (sh : Shell) (command path : String) : String :=
  match sh with
  | posix => s!"{command} > {sh.quote path}"
  | powershell => s!"{command} | Out-File -Encoding UTF8 -FilePath {sh.quote path}"

/-- The command that replaces a file by its compressed form. -/
def compress (sh : Shell) (path : String) : String :=
  match sh with
  | posix => s!"gzip -f {sh.quote path}"
  | powershell => s!"Gzip-File {sh.quote path}"

/-- Whether the shell takes commands and paths without regard to case. -/
def ignoresCase : Shell → Bool
  | posix => false
  | powershell => true

end Shell

/-! ## Commands in pieces -/

/-- A piece of a command. -/
inductive Piece where
  /-- Words and signs of the shell, written as they stand. -/
  | fixed (text : String)
  /-- A text that has to reach the command as one argument, quoted as needed. -/
  | arg (text : String)
  deriving Repr, DecidableEq, Inhabited

/-- How a piece is written. -/
def Piece.render (sh : Shell) : Piece → String
  | fixed text => text
  | arg text => sh.quote text

/-- The command made of pieces. -/
def Shell.render (sh : Shell) (l : List Piece) : String :=
  l.foldr (fun p s => p.render sh ++ s) ""

end RemoteSearch

/-!
# Nested texts

What a dollar or a backquote opens in a POSIX command: a command in parentheses or between
backquotes, an expression in two pairs of parentheses, or a variable in braces. Quotes and brackets
in it are kept in mind, so that the text ends where the bracket that opened it is closed.
-/

namespace RemoteSearch.Shell

/-- What has been opened and not yet closed. -/
inductive Bracket where
  | parenthesis
  /-- A parenthesis in an expression. -/
  | inner
  /-- The outer parenthesis of an expression, which must close right after the inner one. -/
  | outer
  /-- A brace after a dollar; the flag tells whether it stands in double quotes. -/
  | brace (quoted : Bool)
  | backquote
  | singleQuote
  | doubleQuote
  | comment
  deriving Repr, DecidableEq, Inhabited

/-- Why a text is not complete. -/
inductive Shortfall where
  | quote
  | command
  | arithmetic
  | backquote
  | brace
  deriving Repr, DecidableEq, Inhabited

/-- A nested text that is being read. -/
structure Nest where
  /-- What is open, innermost first. -/
  opened : List Bracket
  /-- The text so far, latest first. -/
  text : List Char := []
  /-- Whether a backslash takes the next character. -/
  escaped : Bool := false
  /-- Whether the latest character is a dollar that means something. -/
  dollar : Bool := false
  /-- Whether a dollar and a parenthesis have just been read. -/
  fresh : Bool := true
  deriving Repr, DecidableEq, Inhabited

namespace Nest

/-- Whether a character begins a comment after the one before it. -/
def beginsComment (text : List Char) : Bool :=
  match text with
  | [] => true
  | c :: _ => [' ', '\t', '\n', ';'].contains c

/-- What is open after a character that a dollar or a backquote makes open something. -/
def opens? (n : Nest) (quoted : Bool) (c : Char) : Option (List Bracket) :=
  if c = '\x60' then some (.backquote :: n.opened)
  else if c = '(' ∧ n.dollar then some (.parenthesis :: n.opened)
  else if c = '\x7b' ∧ n.dollar then some (.brace quoted :: n.opened)
  else none

/-- What a quote opens. -/
def opensQuote? (n : Nest) (c : Char) : Option (List Bracket) :=
  if c = '\'' then some (.singleQuote :: n.opened)
  else if c = '"' then some (.doubleQuote :: n.opened)
  else none

/-- What is open after a character that no backslash takes. -/
def turn (n : Nest) (c : Char) : List Bracket :=
  match n.opened with
  | [] => []
  | .singleQuote :: r => if c = '\'' then r else n.opened
  | .comment :: r => if c = '\n' then r else n.opened
  | .backquote :: r => if c = '\x60' then r else n.opened
  | .outer :: r => if c = ')' then r else n.opened
  | .doubleQuote :: r => if c = '"' then r else (n.opens? true c).getD n.opened
  | .brace quoted :: r =>
    if c = '\x7d' then r
    else
      match n.opens? quoted c, if quoted then none else n.opensQuote? c with
      | some l, _ => l
      | none, some l => l
      | none, none => n.opened
  | .inner :: r =>
    if c = ')' then r
    else
      match n.opens? true c with
      | some l => l
      | none => if c = '(' then .inner :: n.opened else n.opened
  | .parenthesis :: r =>
    if c = ')' then r
    else if c = '(' then if n.fresh then .inner :: .outer :: r else .parenthesis :: n.opened
    else
      match n.opens? false c, n.opensQuote? c with
      | some l, _ => l
      | none, some l => l
      | none, none => if c = '#' ∧ beginsComment n.text then .comment :: n.opened else n.opened

/-- Whether backslashes take characters there. -/
def takesBackslash : List Bracket → Bool
  | .singleQuote :: _ => false
  | .comment :: _ => false
  | _ => true

/-- Takes a character. Nothing is open any more after the one that closes the text. -/
def take (n : Nest) (c : Char) : Nest :=
  let opened := if n.escaped then n.opened else n.turn c
  { opened
    text := if opened.isEmpty then n.text else c :: n.text
    escaped := !n.escaped && c == '\\' && takesBackslash n.opened
    dollar := !n.escaped && c == '$'
    fresh := n.dollar && c == '(' }

/-- Whether a character cannot follow, since an expression must be closed. -/
def refuses (n : Nest) (c : Char) : Bool := n.opened.head? = some .outer && c != ')'

/-- The text as it stands. -/
def content (n : Nest) : List Char := n.text.reverse

/-- What is missing where the text ends too early. -/
def shortfall (n : Nest) : Shortfall :=
  match n.opened with
  | .singleQuote :: _ => .quote
  | .doubleQuote :: _ => .quote
  | .backquote :: _ => .backquote
  | .brace quoted :: _ => if quoted then .quote else .brace
  | .inner :: _ => .arithmetic
  | .outer :: _ => .arithmetic
  | _ => .command

end Nest

end RemoteSearch.Shell

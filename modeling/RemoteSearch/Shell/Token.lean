import RemoteSearch.Shell.Nest

/-!
# Words of POSIX commands

How a POSIX shell divides a command into words and operators, and what quotes do: blanks divide
words, quotes and backslashes take characters as they are, and a dollar stands before the name of a
variable, or before a nested text, where it is not quoted singly. The lines after a command that
asks for a document belong to the command.

The text goes through a small machine character by character (`Lexer.step`), so that reading one
text after another is going on from where the first one ended.
-/

namespace RemoteSearch.Shell

/-- A part of a word. -/
inductive Fragment where
  | bare (c : Char)
  /-- A character that quotes or a backslash protect. -/
  | quoted (c : Char)
  /-- A variable; in braces there may be more than its name. -/
  | parameter (text : List Char) (quoted : Bool)
  /-- What a command writes. -/
  | command (text : List Char) (quoted : Bool)
  | arithmetic (text : List Char) (quoted : Bool)
  /-- The lines of a document, in which a dollar may mean something. -/
  | document (text : List Char) (literal : Bool)
  deriving Repr, DecidableEq, Inhabited

/-- The character that a part of a word stands for by itself. -/
def Fragment.char? : Fragment → Option Char
  | bare c => some c
  | quoted c => some c
  | _ => none

/-- A word or an operator. -/
inductive Token where
  | word (l : List Fragment)
  | operator (l : List Char)
  deriving Repr, DecidableEq, Inhabited

/-- The text of a word without its quotes, if it has no variables. -/
def Token.text? : Token → Option (List Char)
  | word l => l.mapM Fragment.char?
  | operator _ => none

/-- A document that a command asks for. -/
structure Document where
  /-- The place among the tokens, latest first, that it takes. -/
  index : Nat
  /-- The line that ends it. -/
  ending : List Char
  /-- Whether nothing in it means anything. -/
  literal : Bool
  /-- Whether tabs at the start of its lines are left out. -/
  stripped : Bool
  deriving Repr, DecidableEq, Inhabited

/-- Where in the text the lexer is. -/
inductive LexerMode where
  | between
  | inWord
  /-- After a backslash; the flag tells whether it stands in a word that has begun. -/
  | afterBackslash (begun : Bool)
  | singleQuotes
  | doubleQuotes
  | doubleBackslash
  /-- After a dollar; the flag of this and the next two tells whether in double quotes. -/
  | afterDollar (quoted : Bool)
  | inName (name : List Char) (quoted : Bool)
  | inNest (n : Nest) (quoted : Bool)
  /-- After an expression that goes on where it should end. -/
  | broken
  | inComment
  | inOperator (l : List Char)
  /-- In a document, with the line and the document so far, latest first. -/
  | inDocument (d : Document) (later : List Document) (line text : List Char)
  deriving Repr, DecidableEq, Inhabited

/-- What the text is part of. -/
inductive LexerContext where
  | command
  /-- One word after an operator in braces, in which blanks divide nothing. -/
  | operand
  /-- Such a word in double quotes. -/
  | quotedOperand
  | document
  deriving Repr, DecidableEq, Inhabited

/-- The lexer: its mode, the word and the tokens so far, latest first. -/
structure Lexer where
  mode : LexerMode := .between
  parts : List Fragment := []
  tokens : List Token := []
  context : LexerContext := .command
  deriving Repr, DecidableEq, Inhabited

/-- Characters that operators are made of. -/
def isOperatorChar (c : Char) : Bool := ['|', '&', ';', '<', '>', '(', ')'].contains c

/-- Characters that names begin with. -/
def isNameStart (c : Char) : Bool := c.isAlpha || c == '_'

/-- Characters that names go on with. -/
def isNameChar (c : Char) : Bool := c.isAlphanum || c == '_'

/-- Variables of one character that is no letter. -/
def isSpecialName (c : Char) : Bool :=
  c.isDigit || ['?', '$', '!', '#', '@', '*', '-'].contains c

/-- Operators of several characters. -/
def longOperators : List (List Char) :=
  ["&&", "||", ";;", "<<", ">>", "<&", ">&", "<>", ">|", "<<-"].map String.toList

namespace Lexer

/-- Adds a part to the word. -/
def push (s : Lexer) (f : Fragment) : Lexer := { s with parts := f :: s.parts }

/-- Adds a token. -/
def emit (s : Lexer) (t : Token) : Lexer := { s with mode := .between, tokens := t :: s.tokens }

/-- Ends the word. -/
def closeWord (s : Lexer) : Lexer := { s.emit (.word s.parts.reverse) with parts := [] }

/-- The mode after something in double quotes or outside them. -/
def resume (s : Lexer) (quoted : Bool) : Lexer :=
  { s with mode := if quoted then .doubleQuotes else .inWord }

/-- Begins a nested text. -/
def enter (s : Lexer) (b : Bracket) (quoted : Bool) : Lexer :=
  { s with mode := .inNest { opened := [b] } quoted }

/-! ## Documents -/

/-- The documents that the tokens of a line ask for, latest first; `index` counts tokens. -/
def documentsOf (index : Nat) : List Token → List Document
  | .word w :: .operator op :: r =>
    let rest := documentsOf (index + 1) (.operator op :: r)
    let document (stripped : Bool) : Document :=
      { index
        ending := w.filterMap Fragment.char?
        literal := w.any fun f => match f with | .quoted _ => true | _ => false
        stripped }
    match op.dropWhile Char.isDigit with
    | ['<', '<'] => document false :: rest
    | ['<', '<', '-'] => document true :: rest
    | _ => rest
  | .operator ['\n'] :: _ => []
  | _ :: r => documentsOf (index + 1) r
  | [] => []

/-- Ends a line, after which documents may come. -/
def closeLine (s : Lexer) : Lexer :=
  let ended := s.emit (.operator ['\n'])
  match (documentsOf 1 s.tokens).reverse with
  | [] => ended
  | d :: later => { ended with mode := .inDocument d later [] [] }

/-- Puts a document in its place, and begins the next one. -/
def closeDocument (s : Lexer) (d : Document) (later : List Document) (text : List Char) : Lexer :=
  { s with
    tokens := s.tokens.set d.index (.word [.document text.reverse d.literal])
    mode :=
      match later with
      | [] => .between
      | e :: later => .inDocument e later [] [] }

/-- A character in a document. -/
def stepDocument (s : Lexer) (d : Document) (later : List Document) (line text : List Char)
    (c : Char) : Lexer :=
  if c == '\n' then
    if line.reverse = d.ending then s.closeDocument d later text
    else { s with mode := .inDocument d later [] (c :: (line ++ text)) }
  else if c == '\t' && d.stripped && line.isEmpty then s
  else { s with mode := .inDocument d later (c :: line) text }

/-! ## Steps -/

/-- The digit of a word that names a descriptor. -/
def descriptor? (parts : List Fragment) : Option Char :=
  match parts with
  | [.bare c] => if c.isDigit then some c else none
  | _ => none

/-- Characters that mean something between words only. -/
def isDivider (c : Char) : Bool := [' ', '\t', '\n', '#'].contains c || isOperatorChar c

/-- A character between words or in one, where nothing is quoted. -/
def plain (s : Lexer) (begun : Bool) (c : Char) : Lexer :=
  let closed := if begun then s.closeWord else s
  if s.context = .operand ∧ isDivider c then { s.push (.bare c) with mode := .inWord }
  else if c == ' ' || c == '\t' then { closed with mode := .between }
  else if c == '\n' then closed.closeLine
  else if isOperatorChar c then
    -- a digit right before an angle bracket names a descriptor and is no word
    match if c == '<' || c == '>' then descriptor? s.parts else none with
    | some digit => { s with mode := .inOperator [digit, c], parts := [] }
    | none => { closed with mode := .inOperator [c] }
  else if c == '#' && !begun then { s with mode := .inComment }
  else if c == '\'' then { s with mode := .singleQuotes }
  else if c == '"' then { s with mode := .doubleQuotes }
  else if c == '\\' then { s with mode := .afterBackslash begun }
  else if c == '$' then { s with mode := .afterDollar false }
  else if c == '\x60' then s.enter .backquote false
  else { s.push (.bare c) with mode := .inWord }

/-- A character in double quotes. -/
def inDouble (s : Lexer) (c : Char) : Lexer :=
  if c == '"' then
    match s.context with
    | .document => { s.push (.quoted c) with mode := .doubleQuotes }
    | .quotedOperand => { s with mode := .doubleQuotes }
    | _ => { s with mode := .inWord }
  else if c == '\\' then { s with mode := .doubleBackslash }
  else if c == '$' then { s with mode := .afterDollar true }
  else if c == '\x60' then s.enter .backquote true
  else { s.push (.quoted c) with mode := .doubleQuotes }

/-- A character after something that may have stood in double quotes. -/
def next (s : Lexer) (quoted : Bool) (c : Char) : Lexer :=
  if quoted then s.inDouble c else s.plain true c

/-- A dollar that stands for itself. -/
def dollar (s : Lexer) (quoted : Bool) : Lexer :=
  s.push (if quoted then .quoted '$' else .bare '$')

/-- Whether an operator can go on with a character. -/
def extends? (l : List Char) (c : Char) : Bool :=
  longOperators.contains (l.dropWhile Char.isDigit ++ [c])

/-- A text between backquotes without the backslashes that protect it there. -/
def unprotect (quoted : Bool) : List Char → List Char
  | '\\' :: c :: r =>
    if ['$', '\x60', '\\'].contains c || quoted && c == '"' then c :: unprotect quoted r
    else '\\' :: unprotect quoted (c :: r)
  | c :: r => c :: unprotect quoted r
  | [] => []

/-- The part of a word that a nested text makes. -/
def nested (b : Bracket) (text : List Char) (quoted : Bool) : Fragment :=
  match b with
  | .brace _ => .parameter text quoted
  | .backquote => .command (unprotect quoted text) quoted
  | .outer => .arithmetic text.tail.dropLast quoted
  | _ => .command text quoted

/-- A character in a nested text. -/
def stepNest (s : Lexer) (n : Nest) (quoted : Bool) (c : Char) : Lexer :=
  let n' := n.take c
  if n.refuses c then { s with mode := .broken }
  else if n'.opened.isEmpty then
    (s.push (nested (n.opened.headD .parenthesis) n'.content quoted)).resume quoted
  else { s with mode := .inNest n' quoted }

/-- Takes a character. -/
def step (s : Lexer) (c : Char) : Lexer :=
  match s.mode with
  | .between => s.plain false c
  | .inWord => s.plain true c
  | .afterBackslash begun =>
    if c == '\n' then { s with mode := if begun then .inWord else .between }
    else { s.push (.quoted c) with mode := .inWord }
  | .singleQuotes => if c == '\'' then { s with mode := .inWord } else s.push (.quoted c)
  | .doubleQuotes => s.inDouble c
  | .doubleBackslash =>
    if c == '\n' then { s with mode := .doubleQuotes }
    else if ['$', '\x60', '\\'].contains c || c == '"' && s.context != .document then
      { s.push (.quoted c) with mode := .doubleQuotes }
    else { (s.push (.quoted '\\')).push (.quoted c) with mode := .doubleQuotes }
  | .afterDollar q =>
    if isNameStart c then { s with mode := .inName [c] q }
    else if c == '\x7b' then s.enter (.brace q) q
    else if c == '(' then s.enter .parenthesis q
    else if isSpecialName c then (s.push (.parameter [c] q)).resume q
    else (s.dollar q).next q c
  | .inName name q =>
    if isNameChar c then { s with mode := .inName (c :: name) q }
    else (s.push (.parameter name.reverse q)).next q c
  | .inNest n q => s.stepNest n q c
  | .broken => s
  | .inComment => if c == '\n' then s.closeLine else s
  | .inOperator l =>
    if extends? l c then { s with mode := .inOperator (l ++ [c]) }
    else (s.emit (.operator l)).plain false c
  | .inDocument d later line text => s.stepDocument d later line text c

/-- Takes a text. -/
def run (s : Lexer) (l : List Char) : Lexer := l.foldl step s

/-- Ends the documents that are not there yet. -/
def closeDocuments (s : Lexer) (d : Document) (text : List Char) : List Document → Lexer
  | [] => s.closeDocument d [] text
  | e :: later => closeDocuments (s.closeDocument d [] text) e [] later

/-- The lexer at the end of the text, and what is missing there. -/
def finish (s : Lexer) : Lexer × Option Shortfall :=
  match s.mode with
  | .between => (s, none)
  | .inComment => (s, none)
  | .inWord => (s.closeWord, none)
  | .afterBackslash _ => ((s.push (.quoted '\\')).closeWord, none)
  | .inOperator l => (s.emit (.operator l), none)
  | .afterDollar false => ((s.dollar false).closeWord, none)
  | .inName name false => ((s.push (.parameter name.reverse false)).closeWord, none)
  | .inNest n _ => (s, some n.shortfall)
  | .broken => (s, some .arithmetic)
  | .inDocument d later line text =>
    let text := if line.reverse = d.ending then text else line ++ text
    (s.closeDocuments d text later, none)
  | _ => (s, some .quote)

/-- Reading one text after another goes on from where the first one ended. -/
theorem run_append (s : Lexer) (a b : List Char) : s.run (a ++ b) = (s.run a).run b :=
  List.foldl_append

end Lexer

/-- The tokens of a command, unless something is left open. -/
def tokens? (l : List Char) : Option (List Token) :=
  match (({} : Lexer).run l).finish with
  | (s, none) => some s.tokens.reverse
  | (_, some _) => none

/-- A lexer that keeps the lines in mind on which its tokens end, latest first. -/
structure LineLexer where
  lexer : Lexer := {}
  line : Nat := 1
  lines : List Nat := []
  deriving Repr, DecidableEq, Inhabited

namespace LineLexer

/-- Goes on with a lexer that has read more. -/
def follow (s : LineLexer) (lexer : Lexer) : LineLexer :=
  let more := lexer.tokens.length - s.lexer.tokens.length
  { s with lexer, lines := List.replicate more s.line ++ s.lines }

/-- Takes a character. -/
def step (s : LineLexer) (c : Char) : LineLexer :=
  let s := s.follow (s.lexer.step c)
  if c == '\n' then { s with line := s.line + 1 } else s

end LineLexer

/-- What a text has: tokens with their lines, the line of its end, and what is missing there. -/
structure Scan where
  tokens : List Token
  lines : List Nat
  lastLine : Nat
  missing : Option Shortfall
  deriving Repr, DecidableEq, Inhabited

/-- The tokens of a command with their lines. -/
def scan (l : List Char) : Scan :=
  let s := l.foldl LineLexer.step {}
  let (lexer, missing) := s.lexer.finish
  let s := s.follow lexer
  { tokens := lexer.tokens.reverse, lines := s.lines.reverse, lastLine := s.line, missing }

/-- The parts of a text that is one word for itself, as the context has it. -/
def partsOf (context : LexerContext) (l : List Char) : List Fragment :=
  let mode := if context = .operand then .inWord else .doubleQuotes
  let s := ({ mode, context } : Lexer).run l
  let ended :=
    match s.mode with
    | .afterBackslash _ => s.push (.quoted '\\')
    | .doubleBackslash => s.push (.quoted '\\')
    | .afterDollar q => s.dollar q
    | .inName name q => s.push (.parameter name.reverse q)
    | _ => s
  ended.parts.reverse

end RemoteSearch.Shell

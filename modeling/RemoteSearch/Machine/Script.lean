import RemoteSearch.Shell.Token

/-!
# Scripts

What a POSIX shell makes of a text: simple commands with their assignments and redirections,
pipelines, lists, groups, conditions, loops, choices, and definitions of functions.
-/

namespace RemoteSearch.Machine

open Shell (Fragment)

/-- A word as it is written. -/
abbrev Word : Type := List Fragment

/-- Where a redirection leads. -/
inductive Target where
  | read (path : Word)
  | write (path : Word)
  /-- Also where a file must not be written over. -/
  | replace (path : Word)
  | append (path : Word)
  | readWrite (path : Word)
  /-- Where another descriptor leads, or nowhere. -/
  | same (descriptor : Word)
  | document (text : Word)
  deriving Repr, DecidableEq, Inhabited

/-- A redirection of a descriptor. -/
structure Redirection where
  descriptor : Nat
  target : Target
  deriving Repr, DecidableEq, Inhabited

/-- What stands between two commands of a list. -/
inductive Joint where
  | always
  | onSuccess
  | onFailure
  deriving Repr, DecidableEq, Inhabited

/-- Whether a command runs after one of a status. -/
def Joint.admits : Joint → Nat → Bool
  | always, _ => true
  | onSuccess, n => n == 0
  | onFailure, n => n != 0

/-- An assignment to a variable. -/
structure Assignment where
  name : String
  value : Word
  deriving Repr, DecidableEq, Inhabited

mutual

/-- A script. -/
inductive Script where
  | nothing
  /-- A command on a line of the text. -/
  | simple (line : Nat) (assignments : List Assignment) (words : List Word)
      (redirections : List Redirection)
  | redirected (body : Script) (redirections : List Redirection)
  | pipe (left right : Script)
  | negated (body : Script)
  | joined (left : Script) (joint : Joint) (right : Script)
  /-- A script that is not waited for. -/
  | background (body : Script)
  /-- A script in parentheses: what it changes in the shell is lost. -/
  | apart (body : Script)
  | choice (condition yes no : Script)
  /-- Runs the body for as long as the condition succeeds, or fails, as is wanted. -/
  | loop (wanted : Bool) (condition body : Script)
  /-- Runs the body for each of the words. -/
  | each (name : String) (words : List Word) (body : Script)
  | select (word : Word) (arms : Arms)
  | define (name : String) (body : Script)

/-- The arms of a choice among patterns. -/
inductive Arms where
  | none
  | arm (patterns : List Word) (body : Script) (rest : Arms)

end

deriving instance Repr, Inhabited for Script

/-- The word that stands for all arguments of a script. -/
def allArguments : Word := [.parameter ['@'] true]

namespace Script

/-- A script after another one. -/
def after : Script → Joint → Script → Script
  | nothing, _, s => s
  | before, joint, s => joined before joint s

end Script

end RemoteSearch.Machine

import RemoteSearch.Machine.Process

/-!
# Options of tools

How tools take their arguments: letters after a dash in any place, some with values of their own,
until a double dash says that only operands follow.
-/

namespace RemoteSearch.Machine

/-- What a tool was given. -/
structure Given where
  /-- The options in their order, with their values. -/
  options : List (Char × String) := []
  operands : List String := []
  deriving Repr, DecidableEq, Inhabited

/-- Why a tool does not take an option. -/
inductive OptionFault where
  | invalid (c : Char)
  | noValue (c : Char)
  | unrecognized (text : String)
  deriving Repr, DecidableEq, Inhabited

namespace OptionFault

/-- Where a tool tells more about itself. -/
def hint (tool : String) : String := s!"Try '{tool} --help' for more information.\n"

/-- What a tool says of it. -/
def message (tool : String) : OptionFault → String
  | invalid c => s!"{tool}: invalid option -- '{c}'\n{hint tool}"
  | noValue c => s!"{tool}: option requires an argument -- '{c}'\n{hint tool}"
  | unrecognized text => s!"{tool}: unrecognized option '{text}'\n{hint tool}"

end OptionFault

namespace Given

/-- Whether an option was given. -/
def has (g : Given) (c : Char) : Bool := g.options.any (·.1 == c)

/-- The value of an option, of which the last one counts. -/
def value? (g : Given) (c : Char) : Option String := g.options.reverse.lookup c

/-- Letters after one dash; the value of the last one may be still to come. -/
def readLetters (flags valued : List Char) (g : Given) :
    List Char → Except OptionFault (Given × Option Char)
  | [] => .ok (g, none)
  | c :: r =>
    if flags.contains c then readLetters flags valued { g with options := g.options ++ [(c, "")] } r
    else if valued.contains c then
      if r.isEmpty then .ok (g, some c)
      else .ok ({ g with options := g.options ++ [(c, String.ofList r)] }, none)
    else .error (.invalid c)

/-- Takes arguments; `long` are the names of options in one word that count as letters. -/
def read (flags valued : List Char) (long : List (String × Char)) (g : Given) :
    List String → Except OptionFault Given
  | [] => .ok g
  | "--" :: r => .ok { g with operands := g.operands ++ r }
  | a :: r =>
    match long.lookup a, a.toList with
    | some c, _ => read flags valued long { g with options := g.options ++ [(c, "")] } r
    | none, '-' :: '-' :: _ => .error (.unrecognized a)
    | none, '-' :: c :: cs =>
      match readLetters flags valued g (c :: cs) with
      | .error e => .error e
      | .ok (g, none) => read flags valued long g r
      | .ok (g, some c) =>
        match r with
        | v :: r => read flags valued long { g with options := g.options ++ [(c, v)] } r
        | [] => .error (.noValue c)
    | none, _ => read flags valued long { g with operands := g.operands ++ [a] } r

end Given

/-- Runs a tool with its options, or complains of one; `status` is that of a complaint. -/
def withOptions (tool : String) (status : Nat) (flags valued : List Char)
    (long : List (String × Char)) (arguments : List String) (body : Given → Process → Process)
    (p : Process) : Process :=
  match Given.read flags valued long {} arguments with
  | .ok g => body g p
  | .error e => (p.complain (e.message tool)).finish status

/-- A tool does not take its arguments, and says where it tells more about them. -/
def refuse (tool text : String) (status : Nat) (p : Process) : Process :=
  (p.complain (s!"{tool}: {text}\n" ++ OptionFault.hint tool)).finish status

/-- A tool complains that it was given nothing. -/
def missingOperand (tool : String) (p : Process) : Process := refuse tool "missing operand" 1 p

end RemoteSearch.Machine

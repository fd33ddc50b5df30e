import RemoteSearch.Settings.Basic

/-!
# Budgets of time

Commands run under one of four budgets. All times are in milliseconds.
-/

namespace RemoteSearch

/-- How long a command may take. -/
inductive Tier where
  | short
  | medium
  | long
  | extraLong
  deriving Repr, DecidableEq, Inhabited

namespace Tier

/-- All tiers, shortest first. -/
def all : List Tier := [short, medium, long, extraLong]

/-- The name of the tier. -/
def name : Tier → String
  | short => "S"
  | medium => "M"
  | long => "L"
  | extraLong => "XL"

/-- The setting that holds the budget. -/
def settingKey : Tier → String
  | short => "read_timeout_s"
  | medium => "read_timeout_m"
  | long => "read_timeout_l"
  | extraLong => "read_timeout_xl"

/-- The budget where no setting says otherwise. -/
def standard : Tier → Nat
  | short => 30000
  | medium => 120000
  | long => 900000
  | extraLong => 3600000

end Tier

/-- A budget for each tier. -/
abbrev Budgets := Tier → Nat

namespace Budgets

/-- The budgets that settings give; missing and zero ones are the standard. -/
def ofSettings (s : Settings) : Budgets := fun t => (s.positive? t.settingKey).getD t.standard

/-- One budget for all tiers. -/
def uniform (n : Nat) : Budgets := fun _ => n

/-- The standard budgets. -/
def standard : Budgets := Tier.standard

end Budgets

end RemoteSearch

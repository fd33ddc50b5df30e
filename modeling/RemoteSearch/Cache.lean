import RemoteSearch.Error

/-!
# The cache of results

Paths that a search found, under the key of its command. An entry is written once and stays as it
is for as long as the cache lives.
-/

namespace RemoteSearch

/-- Keys with the paths stored under them, oldest first. -/
structure Cache where
  entries : List (String × List String) := []
  deriving Repr, DecidableEq, Inhabited

namespace Cache

/-- The paths stored under a key. -/
def lookup? (c : Cache) (key : String) : Option (List String) := c.entries.lookup key

/-- The paths stored under a key, or an error that names it. -/
def get (c : Cache) (key : String) : Except Error (List String) :=
  match c.lookup? key with
  | some paths => .ok paths
  | none => .error (.search (.notFound key))

/-- Stores paths under a key that has none. -/
def store (c : Cache) (key : String) (paths : List String) : Cache :=
  match c.lookup? key with
  | some _ => c
  | none => ⟨c.entries ++ [(key, paths)]⟩

/-- The number of keys. -/
def size (c : Cache) : Nat := c.entries.length

/-- Whether nothing is stored. -/
def isEmpty (c : Cache) : Bool := c.entries.isEmpty

/-- Storing changes nothing but the key it is about. -/
theorem lookup?_store (c : Cache) (key other : String) (paths : List String) :
    (c.store key paths).lookup? other =
      if other = key then some ((c.lookup? key).getD paths) else c.lookup? other := by
  unfold store
  cases h : c.lookup? key with
  | some old =>
    by_cases ho : other = key
    · subst ho
      simp [h]
    · simp [ho]
  | none =>
    by_cases ho : other = key
    · subst ho
      simp only [lookup?] at h ⊢
      simp [List.lookup_append, h]
    · have hb : (other == key) = false := by simpa using ho
      simp [lookup?, List.lookup_append, List.lookup_cons, hb, ho]

/-- **What is stored stays as it is.** -/
theorem lookup?_store_of_some {c : Cache} {key other : String} {paths old : List String}
    (h : c.lookup? other = some old) : (c.store key paths).lookup? other = some old := by
  rw [lookup?_store]
  split
  · rename_i he
    subst he
    simp [h]
  · exact h

end Cache

end RemoteSearch

/-!
# Named texts

A finite map from names to texts, kept as pairs in ascending order of their names. Names compare by
code point. Putting a name that is there already replaces its text.
-/

namespace RemoteSearch

/-- Named texts in ascending order of names. -/
abbrev Fields := List (String × String)

namespace Fields

/-- Sets the text of a name. -/
def put (name text : String) : Fields → Fields
  | [] => [(name, text)]
  | (n, t) :: r =>
    if name = n then (name, text) :: r
    else if name < n then (name, text) :: (n, t) :: r
    else (n, t) :: put name text r

/-- The text of a name. -/
def get? (fields : Fields) (name : String) : Option String := fields.lookup name

/-- The fields other than the given name. -/
def without (fields : Fields) (name : String) : Fields := fields.filter (·.1 != name)

/-- The fields of a list of pairs; of two pairs with one name the later counts. -/
def ofList (l : List (String × String)) : Fields := l.foldl (fun acc (n, t) => put n t acc) []

/-- A text that was put is found again. -/
theorem get?_put_self (fields : Fields) (name text : String) :
    get? (put name text fields) name = some text := by
  induction fields with
  | nil => simp [put, get?]
  | cons p r ih =>
    obtain ⟨n, t⟩ := p
    simp only [put]
    split
    · simp [get?]
    · rename_i h
      split
      · simp [get?]
      · have hb : (name == n) = false := by simpa using h
        simpa [get?, List.lookup_cons, hb] using ih

end Fields

end RemoteSearch

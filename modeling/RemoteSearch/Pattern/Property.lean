import RemoteSearch.Pattern.CharClass
import RemoteSearch.Text.Split
import RemoteSearch.Text.Unicode.Property

/-!
# Classes given by a property

What stands in a pattern for a property of characters: the name of a trait, a category or a script,
or the name of a property and a value of it with a sign between them. The sign may be a colon, an
equals sign, or one that says that they differ, which is read but does not make a difference.
-/

namespace RemoteSearch.Pattern.Property

open Text

/-- The class that a text in a pattern names. -/
def class? (l : List Char) : Option CharClass :=
  let value (p : List Char × List Char) :=
    Unicode.Property.findValue? (String.ofList p.1) (String.ofList p.2)
  let ranges :=
    match cutAt "!=".toList l, cutAt [':'] l, cutAt ['='] l with
    | some p, _, _ => value p
    | none, some p, _ => value p
    | none, none, some p => value p
    | none, none, none => Unicode.Property.find? (String.ofList l)
  ranges.map .table

end RemoteSearch.Pattern.Property

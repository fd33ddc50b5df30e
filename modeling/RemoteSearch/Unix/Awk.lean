/-!
# Patterns in awk programs

A pattern stands between slashes in an awk program, so each slash of its own needs a backslash. A
backslash that is there already covers the character after it.
-/

namespace RemoteSearch.Unix.Awk

/-- A pattern with a backslash before each slash that has none. -/
def escapeSlashes : List Char → List Char
  | [] => []
  | ['\\'] => ['\\']
  | '\\' :: c :: r => '\\' :: c :: escapeSlashes r
  | c :: r => if c = '/' then '\\' :: '/' :: escapeSlashes r else c :: escapeSlashes r

/-- The program that keeps the paths whose last name a pattern is found in. -/
def lastNameProgram (source : String) : String :=
  String.ofList ("$NF ~ /".toList ++ escapeSlashes source.toList ++ ['/'])

theorem toList_lastNameProgram (source : String) : (lastNameProgram source).toList =
    "$NF ~ /".toList ++ (escapeSlashes source.toList ++ ['/']) := by
  rw [← List.append_assoc]
  exact String.toList_ofList

/-! ## Reading of literals -/

/--
The body of a literal from after its opening slash, and what follows the closing one. A backslash
takes the next character with it, and the first slash besides that closes the literal.
-/
def readLiteral : List Char → Option (List Char × List Char)
  | [] => none
  | '/' :: r => some ([], r)
  | '\\' :: c :: r => (readLiteral r).map fun p => ('\\' :: c :: p.1, p.2)
  | c :: r => (readLiteral r).map fun p => (c :: p.1, p.2)

/-- The pattern that the body of a literal stands for: slashes without their backslashes. -/
def plainSlashes : List Char → List Char
  | [] => []
  | '\\' :: c :: r => if c = '/' then '/' :: plainSlashes r else '\\' :: c :: plainSlashes r
  | c :: r => c :: plainSlashes r

end RemoteSearch.Unix.Awk

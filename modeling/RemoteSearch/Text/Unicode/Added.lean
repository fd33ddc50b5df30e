import RemoteSearch.Text.Unicode.Derived

/-!
# The version after

Patterns go by version 16 of the standard. Changes of case, and the names of groups, go by version
17: here is what that one adds to the sets that they need. One letter has lost its case there.
-/

namespace RemoteSearch.Text.Unicode.Added

open Category

/-- Characters that words are spelled with. -/
def alphabetic : Ranges := Unicode.alphabetic.union (.ofText "
  88F C5C CDC A7CE-A7CF A7D2 A7D4 A7F1 10940-10959 10EC5-10EC7 10EFA-10EFB 11B60-11B67 11DB0-11DDB
  16EA0-16EB8 16EBB-16ED3 16FF2-16FF6 187F8-187FF 18D09-18D1E 18D80-18DF2 1E6C0-1E6DE 1E6E0-1E6F5
  1E6FE-1E6FF 2B73A-2B73F 2CEA2-2CEAD 323B0-33479")

/-- Numbers. -/
def number : Ranges := Category.number.union (.ofText "11DE0-11DE9 16FF4-16FF6")

/-- Characters that have a case. -/
def cased : Ranges :=
  (Unicode.cased.union (.ofText "A7CE-A7CF A7D2 A7D4 A7F1 16EA0-16EB8 16EBB-16ED3")).diff
    (.ofText "295")

/-- Characters that are passed over when it is asked what has a case. -/
def caseIgnorable : Ranges := Unicode.caseIgnorable.union (.ofText "
  1ACF-1ADD 1AE0-1AEB A7F1 10EC5 10EFA-10EFB 11B60 11B62-11B64 11B66 11DD9 16FF2-16FF3 1E6E3 1E6E6
  1E6EE-1E6EF 1E6F5 1E6FF")

end RemoteSearch.Text.Unicode.Added

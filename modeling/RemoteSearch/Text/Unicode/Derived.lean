import RemoteSearch.Text.Unicode.Category
import RemoteSearch.Text.Unicode.Trait

/-!
# Derived traits

Traits that follow from categories and listed traits: what letters words are made of, what names may
hold, and what has a case.
-/

namespace RemoteSearch.Text.Unicode

open Category Trait

/-- Lowercase characters. -/
def lowercase : Ranges := lowercaseLetter.union otherLowercase

/-- Uppercase characters. -/
def uppercase : Ranges := uppercaseLetter.union otherUppercase

/-- Characters that have a case. -/
def cased : Ranges := .unite [lowercase, uppercase, titlecaseLetter]

/-- Characters that words are spelled with. -/
def alphabetic : Ranges := .unite [letter, letterNumber, lowercase, uppercase, otherAlphabetic]

/-- Mathematical characters. -/
def math : Ranges := mathSymbol.union otherMath

/-- Punctuation that does not part a word when its case is looked at. -/
def inWordPunctuation : Ranges :=
  .ofText "27 2E 3A B7 387 55F 5F4 2018-2019 2024 2027 FE13 FE52 FE55 FF07 FF0E FF1A"

/-- Characters that are passed over when it is asked what has a case. -/
def caseIgnorable : Ranges :=
  .unite [nonspacingMark, enclosingMark, format, modifierLetter, modifierSymbol, inWordPunctuation]

/-- Characters that a change of case changes. -/
def changesWhenCasemapped : Ranges :=
  .unite [changesWhenLowercased, changesWhenUppercased, changesWhenTitlecased]

/-- Characters that belong to the one before them. -/
def graphemeExtend : Ranges := .unite [enclosingMark, nonspacingMark, otherGraphemeExtend]

/-- Characters that stand for themselves. -/
def graphemeBase : Ranges :=
  (Ranges.unite [control, format, surrogate, privateUse, unassigned, lineSeparator,
    paragraphSeparator, graphemeExtend]).compl

/-- Format characters that do show. -/
def visibleFormat : Ranges :=
  (Ranges.ofText "FFF9-FFFB 13430-13440").union prependedConcatenationMark

/-- Characters that do not show where they are not supported. -/
def defaultIgnorable : Ranges :=
  (Ranges.unite [otherDefaultIgnorableCodePoint, format, variationSelector]).diff
    (whiteSpace.union visibleFormat)

/-- What patterns use, and names thus do not. -/
def patternCharacter : Ranges := patternSyntax.union patternWhiteSpace

/-- Characters that names begin with. -/
def idStart : Ranges := (Ranges.unite [letter, letterNumber, otherIdStart]).diff patternCharacter

/-- Characters that names go on with. -/
def idContinue : Ranges :=
  (Ranges.unite [idStart, nonspacingMark, spacingMark, decimalNumber, connectorPunctuation,
    otherIdContinue]).diff patternCharacter

/-- Characters whose normal form would part a name. -/
def unstableInNames : Ranges :=
  .ofText "37A 309B-309C FC5E-FC63 FDFA-FDFB FE70 FE72 FE74 FE76 FE78 FE7A FE7C FE7E"

/-- Characters that names go on with, also when they are normalized. -/
def xidContinue : Ranges := idContinue.diff unstableInNames

/-- Characters that names begin with, also when they are normalized. -/
def xidStart : Ranges := (idStart.diff unstableInNames).diff (.ofText "E33 EB3 FF9E-FF9F")

/-- Characters that words are made of. -/
def wordCharacter : Ranges :=
  .unite [alphabetic, mark, decimalNumber, connectorPunctuation, joinControl]

end RemoteSearch.Text.Unicode

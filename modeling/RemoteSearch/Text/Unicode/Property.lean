import RemoteSearch.Text.Unicode.Age
import RemoteSearch.Text.Unicode.Segment

/-!
# Properties by their names

The names under which categories, scripts and traits are known. Case, blanks, hyphens, underscores,
anything that is not ASCII, and a leading `is` make no difference to a name. A property is a trait
by itself, or has a value: then the set is that of the characters for which it has this value.
-/

namespace RemoteSearch.Text.Unicode.Property

/-- Whether a character of a name makes a difference. -/
def counts (c : Char) : Bool := c.toNat < 0x80 && c != ' ' && c != '-' && c != '_'

/-- A capital letter of ASCII as a small one. -/
def small (c : Char) : Char := if 'A' ≤ c ∧ c ≤ 'Z' then Char.ofNat (c.toNat + 32) else c

/-- A name without what makes no difference. -/
def plain (l : List Char) : List Char := (l.filter counts).map small

/-- A name without what makes no difference, a leading `is` included. -/
def normalized (name : String) : String :=
  match name.toList with
  | i :: s :: r =>
    if small i == 'i' && small s == 's' then
      -- "isc" has a meaning of its own
      if plain r == ['c'] then "isc" else String.ofList (plain r)
    else String.ofList (plain (i :: s :: r))
  | l => String.ofList (plain l)

/-- The set that goes by a name in a list. -/
def lookUp? (name : String) (l : List (List String × Ranges)) : Option Ranges :=
  (l.find? (·.1.contains name)).map (·.2)

section
open Category

/-- The categories with their names. -/
def categories : List (List String × Ranges) := [
  (["any"], .between 0 lastCode), (["ascii"], .between 0 0x7F), (["assigned"], unassigned.compl),
  (["c", "other"], Category.other), (["cc", "control", "cntrl"], control),
  (["cf", "format"], format),
  (["cn", "unassigned"], unassigned), (["co", "privateuse"], privateUse), (["l", "letter"], letter),
  (["lc", "casedletter"], casedLetter), (["ll", "lowercaseletter"], lowercaseLetter),
  (["lm", "modifierletter"], modifierLetter), (["lo", "otherletter"], otherLetter),
  (["lt", "titlecaseletter"], titlecaseLetter), (["lu", "uppercaseletter"], uppercaseLetter),
  (["m", "mark", "combiningmark"], mark), (["mc", "spacingmark"], spacingMark),
  (["me", "enclosingmark"], enclosingMark), (["mn", "nonspacingmark"], nonspacingMark),
  (["n", "number"], number), (["nd", "decimalnumber", "digit"], decimalNumber),
  (["nl", "letternumber"], letterNumber), (["no", "othernumber"], otherNumber),
  (["p", "punctuation", "punct"], punctuation),
  (["pc", "connectorpunctuation"], connectorPunctuation),
  (["pd", "dashpunctuation"], dashPunctuation), (["pe", "closepunctuation"], closePunctuation),
  (["pf", "finalpunctuation"], finalPunctuation),
  (["pi", "initialpunctuation"], initialPunctuation),
  (["po", "otherpunctuation"], otherPunctuation), (["ps", "openpunctuation"], openPunctuation),
  (["s", "symbol"], symbol), (["sc", "currencysymbol"], currencySymbol),
  (["sk", "modifiersymbol"], modifierSymbol), (["sm", "mathsymbol"], mathSymbol),
  (["so", "othersymbol"], otherSymbol), (["z", "separator"], separator),
  (["zl", "lineseparator"], lineSeparator), (["zp", "paragraphseparator"], paragraphSeparator),
  (["zs", "spaceseparator"], spaceSeparator)]

end

section
open Trait

/-- The traits with their names. -/
def traits : List (List String × Ranges) := [
  (["asciihexdigit", "ahex"], asciiHexDigit), (["alphabetic", "alpha"], alphabetic),
  (["bidicontrol", "bidic"], bidiControl), (["caseignorable", "ci"], caseIgnorable),
  (["cased"], cased), (["changeswhencasefolded", "cwcf"], changesWhenCasefolded),
  (["changeswhencasemapped", "cwcm"], changesWhenCasemapped),
  (["changeswhenlowercased", "cwl"], changesWhenLowercased),
  (["changeswhentitlecased", "cwt"], changesWhenTitlecased),
  (["changeswhenuppercased", "cwu"], changesWhenUppercased), (["dash"], dash),
  (["defaultignorablecodepoint", "di"], defaultIgnorable), (["deprecated", "dep"], deprecated),
  (["diacritic", "dia"], diacritic), (["emoji"], emoji),
  (["emojicomponent", "ecomp"], emojiComponent), (["emojimodifier", "emod"], emojiModifier),
  (["emojimodifierbase", "ebase"], emojiModifierBase),
  (["emojipresentation", "epres"], emojiPresentation),
  (["extendedpictographic", "extpict"], extendedPictographic), (["extender", "ext"], extender),
  (["graphemebase", "grbase"], graphemeBase), (["graphemeextend", "grext"], graphemeExtend),
  (["graphemelink", "grlink"], graphemeLink), (["hexdigit", "hex"], hexDigit),
  (["hyphen"], hyphen), (["idsbinaryoperator", "idsb"], idsBinaryOperator),
  (["idstrinaryoperator", "idst"], idsTrinaryOperator),
  (["idsunaryoperator", "idsu"], idsUnaryOperator),
  (["idcompatmathcontinue"], idCompatMathContinue), (["idcompatmathstart"], idCompatMathStart),
  (["idcontinue", "idc"], idContinue), (["idstart", "ids"], idStart),
  (["ideographic", "ideo"], ideographic), (["joincontrol", "joinc"], joinControl),
  (["logicalorderexception", "loe"], logicalOrderException), (["lowercase", "lower"], lowercase),
  (["math"], math), (["modifiercombiningmark", "mcm"], modifierCombiningMark),
  (["noncharactercodepoint", "nchar"], noncharacterCodePoint),
  (["otheralphabetic", "oalpha"], otherAlphabetic),
  (["otherdefaultignorablecodepoint", "odi"], otherDefaultIgnorableCodePoint),
  (["othergraphemeextend", "ogrext"], otherGraphemeExtend),
  (["otheridcontinue", "oidc"], otherIdContinue), (["otheridstart", "oids"], otherIdStart),
  (["otherlowercase", "olower"], otherLowercase), (["othermath", "omath"], otherMath),
  (["otheruppercase", "oupper"], otherUppercase), (["patternsyntax", "patsyn"], patternSyntax),
  (["patternwhitespace", "patws"], patternWhiteSpace),
  (["prependedconcatenationmark", "pcm"], prependedConcatenationMark),
  (["quotationmark", "qmark"], quotationMark), (["radical"], radical),
  (["regionalindicator", "ri"], regionalIndicator),
  (["sentenceterminal", "sterm"], sentenceTerminal), (["softdotted", "sd"], softDotted),
  (["terminalpunctuation", "term"], terminalPunctuation),
  (["unifiedideograph", "uideo"], unifiedIdeograph), (["uppercase", "upper"], uppercase),
  (["variationselector", "vs"], variationSelector),
  (["whitespace", "wspace", "space"], whiteSpace), (["xidcontinue", "xidc"], xidContinue),
  (["xidstart", "xids"], xidStart)]

end

/-- The set of a trait, a category or a script. -/
def find? (name : String) : Option Ranges :=
  let name := normalized name
  (lookUp? name traits).or ((lookUp? name categories).or ((Script.find? name).map (·.own)))

/-- The set of the characters for which a property has a value. -/
def findValue? (name value : String) : Option Ranges :=
  let value := normalized value
  match normalized name with
  | "gc" | "generalcategory" => lookUp? value categories
  | "sc" | "script" => (Script.find? value).map (·.own)
  | "scx" | "scriptextensions" => (Script.find? value).map Script.extended
  | "age" => Age.assignedIn? value Age.all
  | "gcb" | "graphemeclusterbreak" => lookUp? value GraphemeBreak.classes
  | "wb" | "wordbreak" => lookUp? value WordBreak.classes
  | "sb" | "sentencebreak" => lookUp? value SentenceBreak.classes
  | _ => none

end RemoteSearch.Text.Unicode.Property

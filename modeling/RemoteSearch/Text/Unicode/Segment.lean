import RemoteSearch.Text.Unicode.Derived
import RemoteSearch.Text.Unicode.Script

/-!
# Breaks in a text

The classes of characters by which a text is cut into characters as readers see them, into words,
and into sentences.
-/

namespace RemoteSearch.Text.Unicode

open Category Trait

/-- The code point alone. -/
def only (n : Nat) : Ranges := .between n n

/-- The set without some code points, given as a table. -/
def Ranges.without (a : Ranges) (table : String) : Ranges := a.diff (.ofText table)

/-- The set with some code points, given as a table. -/
def Ranges.with (a : Ranges) (table : String) : Ranges := a.union (.ofText table)

/-- The characters whose script has a name. -/
def scriptOwn (name : String) : Ranges := ((Script.find? name).map (·.own)).getD {}

/-- The line feed. -/
def lineFeed : Ranges := only 0xA

/-- The carriage return. -/
def carriageReturn : Ranges := only 0xD

/-- The joiner of characters. -/
def joiner : Ranges := only 0x200D

/-- Tags, which are format characters that go with what is before them. -/
def tags : Ranges := .between 0xE0020 0xE007F

/-- Format characters that stand apart from the character before. -/
def looseFormat : Ranges := (format.without "200B-200D").diff tags

/-- Marks and what else belongs to the character before. -/
def attached : Ranges := .unite [graphemeExtend, spacingMark, emojiModifier]

/-! ## Characters -/

namespace GraphemeBreak

/-- Characters that nothing is joined to. -/
def controls : Ranges :=
  ((Ranges.unite [lineSeparator, paragraphSeparator, control, format,
    unassigned.inter defaultIgnorable]).without "A D 200C-200D").diff
      (tags.union prependedConcatenationMark)

/-- What is joined to the character before. -/
def extend : Ranges := graphemeExtend.union emojiModifier

/-- What is joined to the character after. -/
def prepend : Ranges :=
  prependedConcatenationMark.with "D4E 111C2-111C3 113D1 1193F 11941 11A3A 11A84-11A89 11D46 11F02"

/-- Marks with room of their own that are joined to the character before. -/
def spacing : Ranges :=
  ((spacingMark.diff graphemeExtend).without
    "102B-102C 1038 1062-1064 1067-106D 1083 1087-108C 108F 109A-109C 1A61 1A63-1A64 AA7B AA7D
     11720-11721").with "E33 EB3"

/-- Leading consonants of Korean syllables. -/
def leading : Ranges := .ofText "1100-115F A960-A97C"

/-- Vowels of Korean syllables, and what behaves as they do. -/
def vowel : Ranges := .ofText "1160-11A7 D7B0-D7C6 16D63 16D67-16D6A"

/-- Trailing consonants of Korean syllables. -/
def trailing : Ranges := .ofText "11A8-11FF D7CB-D7FB"

/-- Korean syllables without a trailing consonant. -/
def open' : Ranges := .ofText "AC00-D788/1C"

/-- Korean syllables with a trailing consonant. -/
def closed : Ranges := (Ranges.between 0xAC00 0xD7A3).diff open'

/-- The classes with their names. -/
def classes : List (List String × Ranges) := [
  (["cr"], carriageReturn), (["control", "cn"], controls), (["extend", "ex"], extend),
  (["l"], leading), (["lf"], lineFeed), (["lv"], open'), (["lvt"], closed),
  (["prepend", "pp"], prepend), (["regionalindicator", "ri"], regionalIndicator),
  (["spacingmark", "sm"], spacing), (["t"], trailing), (["v"], vowel), (["zwj"], joiner)]

end GraphemeBreak

/-! ## Words -/

namespace WordBreak

/-- Signs before numbers, which belong to them. -/
def numberSign : Ranges := .ofText "600-605 6DD 890-891 8E2 110BD 110CD"

/-- Letters of scripts that do not part words. -/
def unparted : Ranges := .ofText "
  E01-E30 E32-E33 E40-E46 E81-E82 E84 E86-E8A E8C-EA3 EA5 EA7-EB0 EB2-EB3 EBD EC0-EC4 EC6 EDC-EDF
  1000-102A 103F 1050-1055 105A-105D 1061 1065-1066 106E-1070 1075-1081 108E 1780-17B3 17D7 17DC
  1950-196D 1970-1974 1980-19AB 19B0-19C9 1A20-1A54 1AA7 A9E0-A9E4 A9E6-A9EF A9FA-A9FE AA60-AA76
  AA7A AA7E-AAAF AAB1 AAB5-AAB6 AAB9-AABD AAC0 AAC2 AADB-AADD 11700-1171A 11740-11746"

/-- Letters and signs of Katakana. -/
def katakana : Ranges := .ofText "
  3031-3035 309B-309C 30A0-30FA 30FC-30FF 31F0-31FF 32D0-32FE 3300-3357 FF66-FF9D 1AFF0-1AFF3
  1AFF5-1AFFB 1AFFD-1AFFE 1B000 1B120-1B122 1B155 1B164-1B167"

/-- Hebrew letters. -/
def hebrew : Ranges := (scriptOwn "hebrew").inter otherLetter

/-- Letters of scripts that part words. -/
def letters : Ranges :=
  (alphabetic.with
    "2C2-2C5 2D2-2D7 2DE-2DF 2E5-2EB 2ED 2EF-2FF 55A-55C 55E 58A 5F3 70F A708-A716 A720-A721
     A789-A78A AB5B").diff
    (.unite [ideographic, unparted, katakana, scriptOwn "hiragana", hebrew, attached,
      .ofText "309F 1F200"])

/-- Digits and signs of numbers. -/
def numeric : Ranges := .unite [decimalNumber, only 0x66B, numberSign]

/-- Format characters that do not part a word. -/
def formats : Ranges := looseFormat.diff (numberSign.union (only 0x70F))

/-- The classes with their names. -/
def classes : List (List String × Ranges) := [
  (["aletter", "le"], letters), (["cr"], carriageReturn), (["doublequote", "dq"], only 0x22),
  (["extend"], (attached.with "200C").diff joiner),
  (["extendnumlet", "ex"], .ofText "5F 202F 203F-2040 2054 FE33-FE34 FE4D-FE4F FF3F"),
  (["format", "fo"], formats), (["hebrewletter", "hl"], hebrew), (["katakana", "ka"], katakana),
  (["lf"], lineFeed), (["midletter", "ml"], .ofText "3A B7 387 55F 5F4 2027 FE13 FE55 FF1A"),
  (["midnum", "mn"],
    .ofText "2C 3B 37E 589 60C-60D 66C 7F8 2044 FE10 FE14 FE50 FE54 FF0C FF1B"),
  (["midnumlet", "mb"], .ofText "2E 2018-2019 2024 FE52 FF07 FF0E"),
  (["newline", "nl"], .ofText "B-C 85 2028-2029"), (["numeric", "nu"], numeric),
  (["regionalindicator", "ri"], regionalIndicator), (["singlequote", "sq"], only 0x27),
  (["wsegspace"], .ofText "20 1680 2000-2006 2008-200A 205F 3000"), (["zwj"], joiner)]

end WordBreak

/-! ## Sentences -/

namespace SentenceBreak

/-- Capital letters. -/
def upper : Ranges :=
  (uppercase.without "1C90-1CBA 1CBD-1CBF").with
    "1C5 1C8 1CB 1F2 1F88-1F8F 1F98-1F9F 1FA8-1FAF 1FBC 1FCC 1FFC"

/-- Small letters. -/
def lower : Ranges := lowercase.without "345 10D0-10FA 10FD-10FF"

/-- What goes with the character before. -/
def extend : Ranges := (graphemeExtend.union spacingMark).with "200D"

/-- All other letters. -/
def letters : Ranges := (alphabetic.with "5F3 70F").diff (.unite [upper, lower, extend])

/-- Signs that may end a sentence or stand in a number. -/
def dots : Ranges := .ofText "2E 2024 FE52 FF0E"

/-- Brackets and quotation marks. -/
def close : Ranges :=
  ((Ranges.unite [openPunctuation, closePunctuation, initialPunctuation, finalPunctuation,
    quotationMark]).without "FF02 FF07").with "275B-2760 2E00-2E01 2E06-2E08 2E0B 1F676-1F678"

/-- Format characters that do not part a sentence. -/
def formats : Ranges := (looseFormat.with "200B").diff (WordBreak.numberSign.union (only 0x70F))

/-- The classes with their names. -/
def classes : List (List String × Ranges) := [
  (["aterm", "at"], dots), (["cr"], carriageReturn), (["close", "cl"], close),
  (["extend", "ex"], extend), (["format", "fo"], formats), (["lf"], lineFeed),
  (["lower", "lo"], lower),
  (["numeric", "nu"], .unite [decimalNumber, .ofText "66B-66C", WordBreak.numberSign]),
  (["oletter", "le"], letters),
  (["scontinue", "sc"], .ofText "2C-2D 3A-3B 37E 55D 60C-60D 7F8 1802 1808 2013-2014 3001 FE10-FE11
    FE13-FE14 FE31-FE32 FE50-FE51 FE54-FE55 FE58 FE63 FF0C-FF0D FF1A-FF1B FF64"),
  (["sterm", "st"], sentenceTerminal.diff dots), (["sep", "se"], .ofText "85 2028-2029"),
  (["sp"], .ofText "9 B-C 20 A0 1680 2000-200A 202F 205F 3000"), (["upper", "up"], upper)]

end SentenceBreak

end RemoteSearch.Text.Unicode

import ShiftReduce.Unicode.Property

/-!
# Segmentation

The properties by which texts are cut into characters as they are drawn, words and sentences, in
Unicode 16. Their values are built from categories, scripts and other properties, with short lists
of exceptions, the way the standard derives them. The rest of the code points has no listed value.

## Main definitions

* `Unicode.graphemeBreak?`, `Unicode.wordBreak?`, `Unicode.sentenceBreak?` — the set of a value, by
  (normalized) name
-/

namespace ShiftReduce.Unicode

/-- The union of some scripts, by name. -/
def writtenIn (names : List String) : CodeSet := CodeSet.unions (names.filterMap script?)

/-- Marks, spacing ones included. -/
def spacingExtend : CodeSet := graphemeExtend.union (joined ["mc"])

/-- Formats, but for those that stand in front of what they belong to, and for tags and joiners. -/
def formats : CodeSet :=
  (joined ["cf"]).difference <| CodeSet.unions
    [listed "prependedconcatenationmark", graphemeExtend, CodeSet.ofText "200D"]

/-- Digits, separators inside of numbers, and the marks in front of numbers. -/
def numeric : CodeSet := CodeSet.unions
  [decimalDigit, CodeSet.ofText "600-605 66B 6DD 890-891 8E2 19DA 110BD 110CD"]

/-! ### Characters as they are drawn -/

/-- What is drawn onto the character before it, skin tones included. -/
def drawnOnto : CodeSet := graphemeExtend.union (listed "emojimodifier")

/-- Hangul syllables without a final consonant: the first of each 28. -/
def openSyllables : CodeSet :=
  CodeSet.ofList ((List.range 399).map fun block => (0xAC00 + 28 * block, 0xAC00 + 28 * block))

/-- The values of the property that cuts texts into characters as they are drawn. -/
def graphemeBreaks : List (List String × CodeSet) := [
  (["cr"], CodeSet.ofText "D"),
  (["lf"], CodeSet.ofText "A"),
  (["cn", "control"],
    (CodeSet.unions [joined ["zl", "zp", "cc", "cf"],
      (listed "defaultignorablecodepoint").difference assigned]).difference <|
    CodeSet.unions [drawnOnto, listed "prependedconcatenationmark", CodeSet.ofText "A D 200D"]),
  (["ex", "extend"], drawnOnto),
  (["zwj"], CodeSet.ofText "200D"),
  (["ri", "regionalindicator"], listed "regionalindicator"),
  (["pp", "prepend"], (listed "prependedconcatenationmark").union <| CodeSet.ofText
    "D4E 111C2-111C3 113D1 1193F 11941 11A84-11A89 11D46 11F02"),
  (["sm", "spacingmark"], (((joined ["mc"]).union <| CodeSet.ofText "E33 EB3").difference <|
    drawnOnto).difference <| CodeSet.ofText
      "102B-102C 1038 1062-1064 1067-106D 1083 1087-108C 108F 109A-109C 1A61 1A63-1A64 AA7B
      AA7D 11720-11721"),
  (["l"], CodeSet.ofText "1100-115F A960-A97C"),
  (["v"], CodeSet.ofText "1160-11A7 D7B0-D7C6 16D63 16D67-16D6A"),
  (["t"], CodeSet.ofText "11A8-11FF D7CB-D7FB"),
  (["lv"], openSyllables),
  (["lvt"], (CodeSet.ofText "AC00-D7A3").difference openSyllables)]

/-! ### Words -/

/-- Letters of Hebrew. -/
def hebrewLetters : CodeSet := (writtenIn ["hebrew"]).intersection (joined ["lo"])

/-- What words in Katakana are made of. -/
def katakana : CodeSet :=
  (writtenIn ["katakana"]).union <| CodeSet.ofText "3031-3035 309B-309C 30A0 30FC FF70"

/-- Letters of words that stand between blanks. Scripts that are written without blanks are not
among them. -/
def wordLetters : CodeSet :=
  (alphabetic.difference <| CodeSet.unions [listed "ideographic", katakana, hebrewLetters,
    spacingExtend, writtenIn ["hiragana", "thai", "lao", "myanmar", "khmer", "taile", "newtailue",
      "taitham", "taiviet", "ahom"]]).union <| CodeSet.ofText
    "B8 2C2-2C5 2D2-2D7 2DE-2DF 2E5-2EB 2ED 2EF-2FF 55A-55C 55E 58A 5F3 70F A708-A716
    A720-A721 A789-A78A AB5B"

/-- The values of the property that cuts texts into words. -/
def wordBreaks : List (List String × CodeSet) := [
  (["cr"], CodeSet.ofText "D"),
  (["lf"], CodeSet.ofText "A"),
  (["nl", "newline"], CodeSet.ofText "B-C 85 2028-2029"),
  (["extend"], spacingExtend.union (listed "emojimodifier")),
  (["zwj"], CodeSet.ofText "200D"),
  (["ri", "regionalindicator"], listed "regionalindicator"),
  (["fo", "format"], formats.difference (CodeSet.ofText "200B")),
  (["ka", "katakana"], katakana),
  (["hl", "hebrewletter"], hebrewLetters),
  (["le", "aletter"], wordLetters),
  (["sq", "singlequote"], CodeSet.ofText "27"),
  (["dq", "doublequote"], CodeSet.ofText "22"),
  (["mb", "midnumlet"], CodeSet.ofText "2E 2018-2019 2024 FE52 FF07 FF0E"),
  (["ml", "midletter"], CodeSet.ofText "3A B7 387 55F 5F4 2027 FE13 FE55 FF1A"),
  (["mn", "midnum"], CodeSet.ofText
    "2C 3B 37E 589 60C-60D 66C 7F8 2044 FE50 FE54 FF0C FF1B"),
  (["nu", "numeric"], numeric),
  (["ex", "extendnumlet"], (joined ["pc"]).union (CodeSet.ofText "202F")),
  (["wsegspace"], (joined ["zs"]).difference (CodeSet.ofText "A0 2007 202F"))]

/-! ### Sentences -/

/-- Lower case letters, but for those of Georgian, in which sentences start with them too. -/
def sentenceLower : CodeSet :=
  lowercase.difference (spacingExtend.union (CodeSet.ofText "10D0-10FA 10FD-10FF"))

/-- Upper and title case letters, but for the capitals of Georgian. -/
def sentenceUpper : CodeSet :=
  (uppercase.union (joined ["lt"])).difference (CodeSet.ofText "1C90-1CBA 1CBD-1CBF")

/-- The values of the property that cuts texts into sentences. -/
def sentenceBreaks : List (List String × CodeSet) := [
  (["cr"], CodeSet.ofText "D"),
  (["lf"], CodeSet.ofText "A"),
  (["se", "sep"], CodeSet.ofText "85 2028-2029"),
  (["ex", "extend"], spacingExtend.union (CodeSet.ofText "200D")),
  (["fo", "format"], formats.union (CodeSet.ofText "70F")),
  (["sp"], whiteSpace.difference (CodeSet.ofText "A D 85 2028-2029")),
  (["lo", "lower"], sentenceLower),
  (["up", "upper"], sentenceUpper),
  (["le", "oletter"], (alphabetic.difference <|
    CodeSet.unions [sentenceLower, sentenceUpper, spacingExtend]).union (CodeSet.ofText "5F3")),
  (["nu", "numeric"], numeric.union (CodeSet.ofText "66C")),
  (["at", "aterm"], CodeSet.ofText "2E 2024 FE52 FF0E"),
  (["sc", "scontinue"], CodeSet.ofText
    "2C-2D 3A-3B 37E 55D 60C-60D 7F8 1802 1808 2013-2014 3001 FE10-FE11 FE13-FE14 FE31-FE32
    FE50-FE51 FE54-FE55 FE58 FE63 FF0C-FF0D FF1A-FF1B FF64"),
  (["st", "sterm"], (listed "sentenceterminal").difference (CodeSet.ofText "2E 2024 FE52 FF0E")),
  (["cl", "close"], (joined ["ps", "pe", "pi", "pf"]).union <| CodeSet.ofText
    "22 27 275B-2760 2E00-2E01 2E06-2E08 2E0B 1F676-1F678")]

/-! ### Values by name -/

/-- The set of a value, by (normalized) name. -/
def value? (values : List (List String × CodeSet)) (name : String) : Option CodeSet :=
  (values.find? fun value => value.1.contains name).map Prod.snd

/-- A value of the property that cuts texts into characters as they are drawn. -/
def graphemeBreak? : String → Option CodeSet := value? graphemeBreaks

/-- A value of the property that cuts texts into words. -/
def wordBreak? : String → Option CodeSet := value? wordBreaks

/-- A value of the property that cuts texts into sentences. -/
def sentenceBreak? : String → Option CodeSet := value? sentenceBreaks

end ShiftReduce.Unicode

import RestRoutes.Text.Property
import RestRoutes.Text.Script

/-!
The parts that characters play where a text is divided into clusters, words and sentences, version
16 of the standard. Few are listed; most follow from categories, scripts and other properties.
-/
namespace RestRoutes.Break

def carriageReturn : CodeSet := .singleton 0x0D

def lineFeed : CodeSet := .singleton 0x0A

def joiner : CodeSet := .singleton 0x200D

/-! Clusters: the characters that a reader sees as one -/

/-- Controls and format characters, which stand alone. -/
def control : CodeSet := ⟨
  [(0x0, 0x9), (0xB, 0xC), (0xE, 0x1F), (0x7F, 0x9F), (0xAD, 0xAD), (0x61C, 0x61C),
   (0x180E, 0x180E), (0x200B, 0x200B), (0x200E, 0x200F), (0x2028, 0x202E), (0x2060, 0x206F),
   (0xFEFF, 0xFEFF), (0xFFF0, 0xFFFB), (0x13430, 0x1343F), (0x1BCA0, 0x1BCA3),
   (0x1D173, 0x1D17A), (0xE0000, 0xE001F), (0xE0080, 0xE00FF), (0xE01F0, 0xE0FFF)]⟩

/-- Marks and modifiers, which attach to what is before them. -/
def extend : CodeSet := Property.graphemeExtend.union Property.emojiModifier

/-- Spacing vowels that stand alone. -/
def standalone : CodeSet := ⟨
  [(0x102B, 0x102C), (0x1038, 0x1038), (0x1062, 0x1064), (0x1067, 0x106D), (0x1083, 0x1083),
   (0x1087, 0x108C), (0x108F, 0x108F), (0x109A, 0x109C), (0x1A61, 0x1A61), (0x1A63, 0x1A64),
   (0xAA7B, 0xAA7B), (0xAA7D, 0xAA7D), (0x11720, 0x11721)]⟩

/-- Vowels that attach although they are letters. -/
def attachedVowel : CodeSet := ⟨
  [(0xE33, 0xE33), (0xEB3, 0xEB3)]⟩

/-- Spacing marks, which attach to what is before them. -/
def spacing : CodeSet :=
  ((Category.spacingMark.diff Property.graphemeExtend).diff standalone).union attachedVowel

/-- Signs that attach to what is after them. -/
def prepend : CodeSet := ⟨
  [(0x600, 0x605), (0x6DD, 0x6DD), (0x70F, 0x70F), (0x890, 0x891), (0x8E2, 0x8E2),
   (0xD4E, 0xD4E), (0x110BD, 0x110BD), (0x110CD, 0x110CD), (0x111C2, 0x111C3),
   (0x113D1, 0x113D1), (0x1193F, 0x1193F), (0x11941, 0x11941), (0x11A3A, 0x11A3A),
   (0x11A84, 0x11A89), (0x11D46, 0x11D46), (0x11F02, 0x11F02)]⟩

/-- Leading consonants of syllable blocks. -/
def leading : CodeSet := ⟨
  [(0x1100, 0x115F), (0xA960, 0xA97C)]⟩

/-- Vowels of syllable blocks. -/
def vowel : CodeSet := ⟨
  [(0x1160, 0x11A7), (0xD7B0, 0xD7C6), (0x16D63, 0x16D63), (0x16D67, 0x16D6A)]⟩

/-- Trailing consonants of syllable blocks. -/
def trailing : CodeSet := ⟨
  [(0x11A8, 0x11FF), (0xD7CB, 0xD7FB)]⟩

/-- The first code point of each row of syllable blocks. The blocks of a row differ in the trailing
consonant, and the first has none. -/
def rows : List Nat := (List.range 399).map fun row => 0xAC00 + 28 * row

def openSyllable : CodeSet := ⟨rows.map fun first => (first, first)⟩

def closedSyllable : CodeSet := ⟨rows.map fun first => (first + 1, first + 27)⟩

/-! Words -/

/-- Digits, the marks of decimals, and signs written around numbers. -/
def numeric : CodeSet :=
  Category.decimalNumber.union ⟨
    [(0x600, 0x605), (0x66B, 0x66B), (0x6DD, 0x6DD), (0x890, 0x891), (0x8E2, 0x8E2),
     (0x19DA, 0x19DA), (0x110BD, 0x110BD), (0x110CD, 0x110CD)]⟩

def wordExtend : CodeSet :=
  .unionAll [Property.graphemeExtend, Category.spacingMark, Property.emojiModifier]

def wordFormat : CodeSet :=
  (Category.format.diff (wordExtend.union numeric)).diff ⟨
  [(0x70F, 0x70F), (0x200B, 0x200D)]⟩

/-- The code points of a script, by name. -/
def script (name : String) : CodeSet := (Script.ofName? name).getD .empty

def katakana : CodeSet :=
  (script "katakana").union ⟨
    [(0x3031, 0x3035), (0x309B, 0x309C), (0x30A0, 0x30A0), (0x30FC, 0x30FC), (0xFF70, 0xFF70)]⟩

def hebrewLetter : CodeSet := (script "hebrew").inter Category.otherLetter

/-- Scripts that put no spaces between words. -/
def unspaced : CodeSet :=
  .unionAll (["thai", "lao", "myanmar", "khmer", "taile", "newtailue", "taitham", "taiviet",
    "ahom"].map script)

/-- Letters, but for those that are words in themselves, and signs that count as letters. -/
def letter : CodeSet :=
  (Property.alphabetic.diff (.unionAll [Property.ideographic, katakana, script "hiragana",
    hebrewLetter, unspaced, wordExtend])).union ⟨
    [(0x2C2, 0x2C5), (0x2D2, 0x2D7), (0x2DE, 0x2DF), (0x2E5, 0x2EB), (0x2ED, 0x2ED),
     (0x2EF, 0x2FF), (0x55A, 0x55C), (0x55E, 0x55E), (0x58A, 0x58A), (0x5F3, 0x5F3),
     (0x70F, 0x70F), (0xA708, 0xA716), (0xA720, 0xA721), (0xA789, 0xA78A), (0xAB5B, 0xAB5B)]⟩

def midLetter : CodeSet := ⟨
  [(0x3A, 0x3A), (0xB7, 0xB7), (0x387, 0x387), (0x55F, 0x55F), (0x5F4, 0x5F4), (0x2027, 0x2027),
   (0xFE13, 0xFE13), (0xFE55, 0xFE55), (0xFF1A, 0xFF1A)]⟩

def midNumber : CodeSet := ⟨
  [(0x2C, 0x2C), (0x3B, 0x3B), (0x37E, 0x37E), (0x589, 0x589), (0x60C, 0x60D), (0x66C, 0x66C),
   (0x7F8, 0x7F8), (0x2044, 0x2044), (0xFE50, 0xFE50), (0xFE54, 0xFE54), (0xFF0C, 0xFF0C),
   (0xFF1B, 0xFF1B)]⟩

/-- Full stops and quotes, which stand both within words and within numbers. -/
def midBoth : CodeSet := ⟨
  [(0x2E, 0x2E), (0x2018, 0x2019), (0x2024, 0x2024), (0xFE52, 0xFE52), (0xFF07, 0xFF07),
   (0xFF0E, 0xFF0E)]⟩

def connector : CodeSet := Category.connectorPunctuation.union (.singleton 0x202F)

def newline : CodeSet := ⟨
  [(0xB, 0xC), (0x85, 0x85), (0x2028, 0x2029)]⟩

def wordSpace : CodeSet := Category.spaceSeparator.diff ⟨
  [(0xA0, 0xA0), (0x2007, 0x2007), (0x202F, 0x202F)]⟩

/-! Sentences -/

def sentenceExtend : CodeSet :=
  .unionAll [Property.graphemeExtend, Category.spacingMark, joiner]

/-- What ends a paragraph. -/
def separator : CodeSet := ⟨
  [(0x85, 0x85), (0x2028, 0x2029)]⟩

def sentenceNumeric : CodeSet := numeric.union (.singleton 0x66C)

def sentenceFormat : CodeSet := Category.format.diff (sentenceExtend.union sentenceNumeric)

def sentenceSpace : CodeSet :=
  Property.whiteSpace.diff (.unionAll [separator, carriageReturn, lineFeed])

/-- Small letters, but for those of a script that seldom uses capitals. -/
def lower : CodeSet :=
  (Property.lowercase.diff Property.graphemeExtend).diff ⟨
  [(0x10D0, 0x10FA), (0x10FD, 0x10FF)]⟩

/-- Capitals, but for those of a script that uses them for whole texts alone. -/
def upper : CodeSet :=
  (Category.titlecaseLetter.union Property.uppercase).diff ⟨
  [(0x1C90, 0x1CBA), (0x1CBD, 0x1CBF)]⟩

def otherLetter : CodeSet :=
  (Property.alphabetic.diff (.unionAll [lower, upper, sentenceExtend])).union (.singleton 0x5F3)

/-- Full stops, which may also end an abbreviation. -/
def fullStop : CodeSet := ⟨
  [(0x2E, 0x2E), (0x2024, 0x2024), (0xFE52, 0xFE52), (0xFF0E, 0xFF0E)]⟩

def terminal : CodeSet := Property.sentenceTerminal.diff fullStop

/-- What shows that a sentence goes on. -/
def continuation : CodeSet := ⟨
  [(0x2C, 0x2D), (0x3A, 0x3B), (0x37E, 0x37E), (0x55D, 0x55D), (0x60C, 0x60D), (0x7F8, 0x7F8),
   (0x1802, 0x1802), (0x1808, 0x1808), (0x2013, 0x2014), (0x3001, 0x3001), (0xFE10, 0xFE11),
   (0xFE13, 0xFE14), (0xFE31, 0xFE32), (0xFE50, 0xFE51), (0xFE54, 0xFE55), (0xFE58, 0xFE58),
   (0xFE63, 0xFE63), (0xFF0C, 0xFF0D), (0xFF1A, 0xFF1B), (0xFF64, 0xFF64)]⟩

/-- Brackets and quotes. -/
def close : CodeSet :=
  (CodeSet.unionAll [Category.openPunctuation, Category.closePunctuation,
    Category.initialPunctuation, Category.finalPunctuation]).union ⟨
    [(0x22, 0x22), (0x27, 0x27), (0x275B, 0x2760), (0x2E00, 0x2E01), (0x2E06, 0x2E08),
     (0x2E0B, 0x2E0B), (0x1F676, 0x1F678)]⟩

/-! Names, lower case and without separators -/

def clusterParts : List (List String × CodeSet) :=
  [(["cn", "control"], control), (["cr"], carriageReturn), (["ex", "extend"], extend),
   (["l"], leading), (["lf"], lineFeed), (["lv"], openSyllable), (["lvt"], closedSyllable),
   (["pp", "prepend"], prepend), (["ri", "regionalindicator"], Property.regionalIndicator),
   (["sm", "spacingmark"], spacing), (["t"], trailing), (["v"], vowel), (["zwj"], joiner)]

def wordParts : List (List String × CodeSet) :=
  [(["cr"], carriageReturn), (["dq", "doublequote"], .singleton 0x22),
   (["ex", "extendnumlet"], connector), (["extend"], wordExtend), (["fo", "format"], wordFormat),
   (["hl", "hebrewletter"], hebrewLetter), (["ka", "katakana"], katakana),
   (["le", "aletter"], letter), (["lf"], lineFeed), (["mb", "midnumlet"], midBoth),
   (["ml", "midletter"], midLetter), (["mn", "midnum"], midNumber), (["nl", "newline"], newline),
   (["nu", "numeric"], numeric), (["ri", "regionalindicator"], Property.regionalIndicator),
   (["sq", "singlequote"], .singleton 0x27), (["wsegspace"], wordSpace), (["zwj"], joiner)]

def sentenceParts : List (List String × CodeSet) :=
  [(["at", "aterm"], fullStop), (["cl", "close"], close), (["cr"], carriageReturn),
   (["ex", "extend"], sentenceExtend), (["fo", "format"], sentenceFormat),
   (["le", "oletter"], otherLetter), (["lf"], lineFeed), (["lo", "lower"], lower),
   (["nu", "numeric"], sentenceNumeric), (["sc", "scontinue"], continuation),
   (["se", "sep"], separator), (["sp"], sentenceSpace), (["st", "sterm"], terminal),
   (["up", "upper"], upper)]

/-- The part of a name. -/
def find? (parts : List (List String × CodeSet)) (name : String) : Option CodeSet :=
  (parts.find? fun entry => entry.1.contains name).map (·.2)

end RestRoutes.Break

import TextCursor.Unicode.Script
import TextCursor.Unicode.Symbol
import TextCursor.Unicode.Letter

/-! # Classes for dividing text

    A text is divided into what a reader takes for one character, into words and
    into sentences by three classes of each character.  A class is asked for by
    its normalized name, short or long; what has no class of its own is in the
    class "other", which has no members here. -/

namespace TextCursor.Unicode

/-- The only member of a set, by its code point. -/
def one (n : Nat) : CharSet :=
  CharSet.range n n

/-- The tones of skin. -/
def emojiModifier : CharSet :=
  CharSet.range 0x1F3FB 0x1F3FF

/-- The letters that pair up as flags. -/
def regionalIndicator : CharSet :=
  CharSet.range 0x1F1E6 0x1F1FF

/-- The characters that are ignored unless they are known, besides format characters. -/
def otherDefaultIgnorable : CharSet :=
  CharSet.ofRanges
    [(0x34F, 0x34F), (0x115F, 0x1160), (0x17B4, 0x17B5), (0x2065, 0x2065), (0x3164, 0x3164),
     (0xFFA0, 0xFFA0), (0xFFF0, 0xFFF8), (0xE0000, 0xE0000), (0xE0002, 0xE001F),
     (0xE0080, 0xE00FF), (0xE01F0, 0xE0FFF)]

/-- The characters that are ignored unless they are known. -/
def defaultIgnorable : CharSet :=
  (CharSet.unions [otherDefaultIgnorable, Category.members .format, variationSelector]).diff
    (prependedMark.union (CharSet.ofRanges [(0xFFF9, 0xFFFB), (0x13430, 0x1343F)]))

namespace GraphemeBreak

/-- The characters that stand alone whatever follows. -/
def control : CharSet :=
  (CharSet.unions
    [Category.membersOf [.control, .lineSeparator, .paragraphSeparator, .format],
     defaultIgnorable.inter (Category.members .unassigned)]).diff
    (CharSet.unions
      [CharSet.ofText ['\n', '\r'], joinControl, prependedMark, CharSet.range 0xE0020 0xE007F])

/-- The marks that extend the character before them and take up room. -/
def spacingMark : CharSet :=
  ((Category.members .spacingMark).diff (otherGraphemeExtend.union (CharSet.ofRanges
    [(0x102B, 0x102C), (0x1038, 0x1038), (0x1062, 0x1064), (0x1067, 0x106D), (0x1083, 0x1083),
     (0x1087, 0x108C), (0x108F, 0x108F), (0x109A, 0x109C), (0x1A61, 0x1A61), (0x1A63, 0x1A64),
     (0xAA7B, 0xAA7B), (0xAA7D, 0xAA7D), (0x11720, 0x11721)]))).union
    (CharSet.ofRanges [(0xE33, 0xE33), (0xEB3, 0xEB3)])

/-- The characters that what follows extends. -/
def prepend : CharSet :=
  CharSet.ofRanges
    [(0x600, 0x605), (0x6DD, 0x6DD), (0x70F, 0x70F), (0x890, 0x891), (0x8E2, 0x8E2),
     (0xD4E, 0xD4E), (0x110BD, 0x110BD), (0x110CD, 0x110CD), (0x111C2, 0x111C3),
     (0x113D1, 0x113D1), (0x1193F, 0x1193F), (0x11941, 0x11941), (0x11A3A, 0x11A3A),
     (0x11A84, 0x11A89), (0x11D46, 0x11D46), (0x11F02, 0x11F02)]

/-- The Korean syllables. -/
def syllables : CharSet :=
  CharSet.range 0xAC00 0xD7A3

/-- The Korean syllables that end with their vowel. -/
def openSyllables : CharSet :=
  CharSet.ofRanges ((List.range 399).map fun i => (0xAC00 + 28 * i, 0xAC00 + 28 * i))

/-- The members of the class with a normalized name. -/
def byName? : String → Option CharSet
  | "cn" | "control" => some control
  | "cr" => some (CharSet.single '\r')
  | "ex" | "extend" => some (graphemeExtend.union emojiModifier)
  | "l" => some (CharSet.ofRanges [(0x1100, 0x115F), (0xA960, 0xA97C)])
  | "lf" => some (CharSet.single '\n')
  | "lv" => some openSyllables
  | "lvt" => some (syllables.diff openSyllables)
  | "pp" | "prepend" => some prepend
  | "ri" | "regionalindicator" => some regionalIndicator
  | "sm" | "spacingmark" => some spacingMark
  | "t" => some (CharSet.ofRanges [(0x11A8, 0x11FF), (0xD7CB, 0xD7FB)])
  | "v" =>
    some (CharSet.ofRanges
      [(0x1160, 0x11A7), (0xD7B0, 0xD7C6), (0x16D63, 0x16D63), (0x16D67, 0x16D6A)])
  | "zwj" => some (one 0x200D)
  | _ => none

end GraphemeBreak

namespace WordBreak

/-- The characters that extend the one before them within a word. -/
def extend : CharSet :=
  CharSet.unions [graphemeExtend, Category.members .spacingMark, emojiModifier]

/-- The letters of Hebrew. -/
def hebrewLetter : CharSet :=
  CharSet.ofRanges
    [(0x5D0, 0x5EA), (0x5EF, 0x5F2), (0xFB1D, 0xFB1D), (0xFB1F, 0xFB28), (0xFB2A, 0xFB36),
     (0xFB38, 0xFB3C), (0xFB3E, 0xFB3E), (0xFB40, 0xFB41), (0xFB43, 0xFB44), (0xFB46, 0xFB4F)]

/-- The letters and signs of katakana. -/
def katakana : CharSet :=
  CharSet.ofRanges
    [(0x3031, 0x3035), (0x309B, 0x309C), (0x30A0, 0x30FA), (0x30FC, 0x30FF), (0x31F0, 0x31FF),
     (0x32D0, 0x32FE), (0x3300, 0x3357), (0xFF66, 0xFF9D), (0x1AFF0, 0x1AFF3),
     (0x1AFF5, 0x1AFFB), (0x1AFFD, 0x1AFFE), (0x1B000, 0x1B000), (0x1B120, 0x1B122),
     (0x1B155, 0x1B155), (0x1B164, 0x1B167)]

/-- The letters of scripts that leave no room between words. -/
def unspaced : CharSet :=
  CharSet.ofRanges
    [(0xE01, 0xE30), (0xE32, 0xE33), (0xE40, 0xE46), (0xE81, 0xE82), (0xE84, 0xE84),
     (0xE86, 0xE8A), (0xE8C, 0xEA3), (0xEA5, 0xEA5), (0xEA7, 0xEB0), (0xEB2, 0xEB3),
     (0xEBD, 0xEBD), (0xEC0, 0xEC4), (0xEC6, 0xEC6), (0xEDC, 0xEDF), (0x1000, 0x102A),
     (0x103F, 0x103F), (0x1050, 0x1055), (0x105A, 0x105D), (0x1061, 0x1061), (0x1065, 0x1066),
     (0x106E, 0x1070), (0x1075, 0x1081), (0x108E, 0x108E), (0x1780, 0x17B3), (0x17D7, 0x17D7),
     (0x17DC, 0x17DC), (0x1950, 0x196D), (0x1970, 0x1974), (0x1980, 0x19AB), (0x19B0, 0x19C9),
     (0x1A20, 0x1A54), (0x1AA7, 0x1AA7), (0xA9E0, 0xA9E4), (0xA9E6, 0xA9EF), (0xA9FA, 0xA9FE),
     (0xAA60, 0xAA76), (0xAA7A, 0xAA7A), (0xAA7E, 0xAAAF), (0xAAB1, 0xAAB1), (0xAAB5, 0xAAB6),
     (0xAAB9, 0xAABD), (0xAAC0, 0xAAC0), (0xAAC2, 0xAAC2), (0xAADB, 0xAADD), (0x11700, 0x1171A),
     (0x11740, 0x11746)]

/-- The other letters, with the signs that occur within words. -/
def letter : CharSet :=
  (alphabetic.diff
    (CharSet.unions
      [ideographic, katakana, (Script.members? "hira").getD CharSet.empty, hebrewLetter, extend,
       unspaced])).union
    (CharSet.ofRanges
      [(0x2C2, 0x2C5), (0x2D2, 0x2D7), (0x2DE, 0x2DF), (0x2E5, 0x2EB), (0x2ED, 0x2ED),
       (0x2EF, 0x2FF), (0x55A, 0x55C), (0x55E, 0x55E), (0x58A, 0x58A), (0x5F3, 0x5F3),
       (0xA708, 0xA716), (0xA720, 0xA721), (0xA789, 0xA78A), (0xAB5B, 0xAB5B)])

/-- The members of the class with a normalized name. -/
def byName? : String → Option CharSet
  | "le" | "aletter" => some letter
  | "cr" => some (CharSet.single '\r')
  | "dq" | "doublequote" => some (CharSet.single '"')
  | "ex" | "extendnumlet" => some (CharSet.ofRanges
      [(0x5F, 0x5F), (0x202F, 0x202F), (0x203F, 0x2040), (0x2054, 0x2054), (0xFE33, 0xFE34),
       (0xFE4D, 0xFE4F), (0xFF3F, 0xFF3F)])
  | "extend" => some extend
  | "fo" | "format" =>
    some ((Category.members .format).diff (graphemeExtend.union (CharSet.range 0x200B 0x200D)))
  | "hl" | "hebrewletter" => some hebrewLetter
  | "ka" | "katakana" => some katakana
  | "lf" => some (CharSet.single '\n')
  | "mb" | "midnumlet" => some (CharSet.ofRanges
      [(0x2E, 0x2E), (0x2018, 0x2019), (0x2024, 0x2024), (0xFE52, 0xFE52), (0xFF07, 0xFF07),
       (0xFF0E, 0xFF0E)])
  | "ml" | "midletter" => some (CharSet.ofRanges
      [(0x3A, 0x3A), (0xB7, 0xB7), (0x387, 0x387), (0x55F, 0x55F), (0x5F4, 0x5F4),
       (0x2027, 0x2027), (0xFE13, 0xFE13), (0xFE55, 0xFE55), (0xFF1A, 0xFF1A)])
  | "mn" | "midnum" => some (CharSet.ofRanges
      [(0x2C, 0x2C), (0x3B, 0x3B), (0x37E, 0x37E), (0x589, 0x589), (0x60C, 0x60D),
       (0x66C, 0x66C), (0x7F8, 0x7F8), (0x2044, 0x2044), (0xFE10, 0xFE10), (0xFE14, 0xFE14),
       (0xFE50, 0xFE50), (0xFE54, 0xFE54), (0xFF0C, 0xFF0C), (0xFF1B, 0xFF1B)])
  | "nl" | "newline" => some (CharSet.ofRanges [(0xB, 0xC), (0x85, 0x85), (0x2028, 0x2029)])
  | "nu" | "numeric" => some (decimalDigit.union (one 0x66B))
  | "ri" | "regionalindicator" => some regionalIndicator
  | "sq" | "singlequote" => some (one 0x27)
  | "wsegspace" => some (CharSet.ofRanges
      [(0x20, 0x20), (0x1680, 0x1680), (0x2000, 0x2006), (0x2008, 0x200A), (0x205F, 0x205F),
       (0x3000, 0x3000)])
  | "zwj" => some (one 0x200D)
  | _ => none

end WordBreak

namespace SentenceBreak

/-- The characters that extend the one before them within a sentence. -/
def extend : CharSet :=
  CharSet.unions [graphemeExtend, Category.members .spacingMark, one 0x200D]

/-- The small letters. -/
def lower : CharSet :=
  lowercase.diff
    (graphemeExtend.union (CharSet.ofRanges [(0x10D0, 0x10FA), (0x10FD, 0x10FF)]))

/-- The capital letters. -/
def upper : CharSet :=
  (uppercase.union (Category.members .titleLetter)).diff
    (CharSet.ofRanges [(0x1C90, 0x1CBA), (0x1CBD, 0x1CBF)])

/-- The full stops, which need not end a sentence. -/
def fullStop : CharSet :=
  CharSet.ofRanges [(0x2E, 0x2E), (0x2024, 0x2024), (0xFE52, 0xFE52), (0xFF0E, 0xFF0E)]

/-- The brackets and quotation marks. -/
def close : CharSet :=
  (CharSet.unions
    [Category.membersOf
      [.openPunctuation, .closePunctuation, .initialPunctuation, .finalPunctuation],
     quotationMark,
     CharSet.ofRanges
       [(0x275B, 0x2760), (0x2E00, 0x2E01), (0x2E06, 0x2E08), (0x2E0B, 0x2E0B),
        (0x1F676, 0x1F678)]]).diff
    (CharSet.ofRanges [(0xFF02, 0xFF02), (0xFF07, 0xFF07)])

/-- The members of the class with a normalized name. -/
def byName? : String → Option CharSet
  | "at" | "aterm" => some fullStop
  | "cl" | "close" => some close
  | "cr" => some (CharSet.single '\r')
  | "ex" | "extend" => some extend
  | "fo" | "format" =>
    some ((Category.members .format).diff (graphemeExtend.union joinControl))
  | "le" | "oletter" =>
    some ((alphabetic.union (one 0x5F3)).diff (CharSet.unions [lower, upper, extend]))
  | "lf" => some (CharSet.single '\n')
  | "lo" | "lower" => some lower
  | "nu" | "numeric" => some (decimalDigit.union (CharSet.range 0x66B 0x66C))
  | "sc" | "scontinue" => some (CharSet.ofRanges
      [(0x2C, 0x2D), (0x3A, 0x3B), (0x37E, 0x37E), (0x55D, 0x55D), (0x60C, 0x60D),
       (0x7F8, 0x7F8), (0x1802, 0x1802), (0x1808, 0x1808), (0x2013, 0x2014), (0x3001, 0x3001),
       (0xFE10, 0xFE11), (0xFE13, 0xFE14), (0xFE31, 0xFE32), (0xFE50, 0xFE51), (0xFE54, 0xFE55),
       (0xFE58, 0xFE58), (0xFE63, 0xFE63), (0xFF0C, 0xFF0D), (0xFF1A, 0xFF1B), (0xFF64, 0xFF64)])
  | "se" | "sep" => some (CharSet.ofRanges [(0x85, 0x85), (0x2028, 0x2029)])
  | "sp" => some (blank.diff (CharSet.unions
      [CharSet.ofText ['\n', '\r'], one 0x85, CharSet.range 0x2028 0x2029]))
  | "st" | "sterm" => some (sentenceTerminal.diff fullStop)
  | "up" | "upper" => some upper
  | _ => none

end SentenceBreak

end TextCursor.Unicode

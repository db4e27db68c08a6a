import Highlight.Unicode.Script
import Highlight.Unicode.Trait

/-! # Segments of a text

Which characters join or divide the graphemes, words and sentences of a text. Most classes follow
from general categories and other properties; the tables list their exceptions. Every class has a
short and a long name, in the form in which names are compared.
-/

namespace Highlight.Unicode

namespace GraphemeBreak

def prefixLetters : CharSet := .mk
   [(0xD4E, 0xD4E), (0x111C2, 0x111C3), (0x113D1, 0x113D1), (0x1193F, 0x1193F),
    (0x11941, 0x11941), (0x11A3A, 0x11A3A), (0x11A84, 0x11A89), (0x11D46, 0x11D46),
    (0x11F02, 0x11F02)]

def prepend : CharSet :=
  prependedConcatenationMark.union prefixLetters

def extend : CharSet :=
  graphemeExtend.union emojiModifier

/-- Spacing marks that do not join the letter before them. -/
def apartVowels : CharSet := .mk
   [(0x102B, 0x102C), (0x1038, 0x1038), (0x1062, 0x1064), (0x1067, 0x106D), (0x1083, 0x1083),
    (0x1087, 0x108C), (0x108F, 0x108F), (0x109A, 0x109C), (0x1A61, 0x1A61), (0x1A63, 0x1A64),
    (0xAA7B, 0xAA7B), (0xAA7D, 0xAA7D), (0x11720, 0x11721)]

/-- Letters that join the letter before them. -/
def joinedVowels : CharSet := .mk
   [(0xE33, 0xE33), (0xEB3, 0xEB3)]

def spacing : CharSet :=
  (spacingMark.diff (extend.union apartVowels)).union joinedVowels

def controls : CharSet :=
  CharSet.diff (.unions [lineSeparator, paragraphSeparator, Unicode.control, format,
      unassigned.inter defaultIgnorable])
    (.unions [.range 0xA 0xA, .range 0xD 0xD, joinControl, prependedConcatenationMark, extend])

def openSyllable : CharSet :=
  .mk ((List.range 399).map fun i => (0xAC00 + 28 * i, 0xAC00 + 28 * i))

def closedSyllable : CharSet :=
  (CharSet.range 0xAC00 0xD7A3).diff openSyllable

def leading : CharSet := .mk
   [(0x1100, 0x115F), (0xA960, 0xA97C)]

def vowel : CharSet := .mk
   [(0x1160, 0x11A7), (0xD7B0, 0xD7C6), (0x16D63, 0x16D63), (0x16D67, 0x16D6A)]

def trailing : CharSet := .mk
   [(0x11A8, 0x11FF), (0xD7CB, 0xD7FB)]

def values : List (List String × CharSet) := [
  (["cn", "control"], controls),
  (["cr"], .range 0xD 0xD),
  (["ex", "extend"], extend),
  (["l"], leading),
  (["lf"], .range 0xA 0xA),
  (["lv"], openSyllable),
  (["lvt"], closedSyllable),
  (["pp", "prepend"], prepend),
  (["ri", "regionalindicator"], regionalIndicator),
  (["sm", "spacingmark"], spacing),
  (["t"], trailing),
  (["v"], vowel),
  (["zwj"], .range 0x200D 0x200D)]

end GraphemeBreak

namespace WordBreak

def extend : CharSet :=
  GraphemeBreak.extend.union spacingMark

def formats : CharSet :=
  format.diff (.unions [.range 0x200B 0x200B, joinControl, GraphemeBreak.prepend, extend])

def numberSigns : CharSet := .mk
   [(0x600, 0x605), (0x66B, 0x66B), (0x6DD, 0x6DD), (0x890, 0x891), (0x8E2, 0x8E2),
    (0x110BD, 0x110BD), (0x110CD, 0x110CD)]

def numeric : CharSet :=
  decimalNumber.union numberSigns

def katakana : CharSet := .mk
   [(0x3031, 0x3035), (0x309B, 0x309C), (0x30A0, 0x30FA), (0x30FC, 0x30FF), (0x31F0, 0x31FF),
    (0x32D0, 0x32FE), (0x3300, 0x3357), (0xFF66, 0xFF9D), (0x1AFF0, 0x1AFF3), (0x1AFF5, 0x1AFFB),
    (0x1AFFD, 0x1AFFE), (0x1B000, 0x1B000), (0x1B120, 0x1B122), (0x1B155, 0x1B155),
    (0x1B164, 0x1B167)]

def hebrewLetter : CharSet := .mk
   [(0x5D0, 0x5EA), (0x5EF, 0x5F2), (0xFB1D, 0xFB1D), (0xFB1F, 0xFB28), (0xFB2A, 0xFB36),
    (0xFB38, 0xFB3C), (0xFB3E, 0xFB3E), (0xFB40, 0xFB41), (0xFB43, 0xFB44), (0xFB46, 0xFB4F)]

def letterSigns : CharSet := .mk
   [(0x2C2, 0x2C5), (0x2D2, 0x2D7), (0x2DE, 0x2DF), (0x2E5, 0x2EB), (0x2ED, 0x2ED),
    (0x2EF, 0x2FF), (0x55A, 0x55C), (0x55E, 0x55E), (0x58A, 0x58A), (0x5F3, 0x5F3),
    (0x70F, 0x70F), (0xA708, 0xA716), (0xA720, 0xA721), (0xA789, 0xA78A), (0xAB5B, 0xAB5B)]

/-- Characters of the scripts that put no blanks between words. -/
def unspaced : CharSet := .mk
   [(0xE01, 0xE3A), (0xE40, 0xE4E), (0xE81, 0xE82), (0xE84, 0xE84), (0xE86, 0xE8A),
    (0xE8C, 0xEA3), (0xEA5, 0xEA5), (0xEA7, 0xEBD), (0xEC0, 0xEC4), (0xEC6, 0xEC6),
    (0xEC8, 0xECE), (0xEDC, 0xEDF), (0x1000, 0x103F), (0x1050, 0x108F), (0x109A, 0x109F),
    (0x1780, 0x17D3), (0x17D7, 0x17D7), (0x17DC, 0x17DD), (0x1950, 0x196D), (0x1970, 0x1974),
    (0x1980, 0x19AB), (0x19B0, 0x19C9), (0x19DA, 0x19DA), (0x19DE, 0x19DF), (0x1A20, 0x1A5E),
    (0x1A60, 0x1A7C), (0x1AA0, 0x1AAD), (0xA9E0, 0xA9EF), (0xA9FA, 0xA9FE), (0xAA60, 0xAAC2),
    (0xAADB, 0xAADF), (0x11700, 0x1171A), (0x1171D, 0x1172B), (0x1173A, 0x1173B),
    (0x1173F, 0x11746)]

def letters : CharSet :=
  (alphabetic.union letterSigns).diff (.unions [ideographic, katakana, unspaced,
    (script? "hiragana").getD .empty, extend, hebrewLetter])

def middleOfWords : CharSet := .mk
   [(0x3A, 0x3A), (0xB7, 0xB7), (0x387, 0x387), (0x55F, 0x55F), (0x5F4, 0x5F4), (0x2027, 0x2027),
    (0xFE13, 0xFE13), (0xFE55, 0xFE55), (0xFF1A, 0xFF1A)]

def middleOfNumbers : CharSet := .mk
   [(0x2C, 0x2C), (0x3B, 0x3B), (0x37E, 0x37E), (0x589, 0x589), (0x60C, 0x60D), (0x66C, 0x66C),
    (0x7F8, 0x7F8), (0x2044, 0x2044), (0xFE10, 0xFE10), (0xFE14, 0xFE14), (0xFE50, 0xFE50),
    (0xFE54, 0xFE54), (0xFF0C, 0xFF0C), (0xFF1B, 0xFF1B)]

def middleOfBoth : CharSet := .mk
   [(0x2E, 0x2E), (0x2018, 0x2019), (0x2024, 0x2024), (0xFE52, 0xFE52), (0xFF07, 0xFF07),
    (0xFF0E, 0xFF0E)]

def connector : CharSet :=
  connectorPunctuation.insertRange 0x202F 0x202F

def unbreakable : CharSet := .mk
   [(0xA0, 0xA0), (0x2007, 0x2007), (0x202F, 0x202F)]

def blanks : CharSet :=
  spaceSeparator.diff unbreakable

def newline : CharSet := .mk
   [(0xB, 0xC), (0x85, 0x85), (0x2028, 0x2029)]

def values : List (List String × CharSet) := [
  (["cr"], .range 0xD 0xD),
  (["dq", "doublequote"], .range 0x22 0x22),
  (["ex", "extendnumlet"], connector),
  (["extend"], extend),
  (["fo", "format"], formats),
  (["hl", "hebrewletter"], hebrewLetter),
  (["ka", "katakana"], katakana),
  (["le", "aletter"], letters),
  (["lf"], .range 0xA 0xA),
  (["mb", "midnumlet"], middleOfBoth),
  (["ml", "midletter"], middleOfWords),
  (["mn", "midnum"], middleOfNumbers),
  (["nl", "newline"], newline),
  (["nu", "numeric"], numeric),
  (["ri", "regionalindicator"], regionalIndicator),
  (["sq", "singlequote"], .range 0x27 0x27),
  (["wsegspace"], blanks),
  (["zwj"], .range 0x200D 0x200D)]

end WordBreak

namespace SentenceBreak

def extend : CharSet :=
  .unions [graphemeExtend, spacingMark, .range 0x200D 0x200D]

def numeric : CharSet :=
  WordBreak.numeric.insertRange 0x66C 0x66C

def formats : CharSet :=
  format.diff (.unions [joinControl, extend, numeric])

/-- Letters whose case does not mark the start of a sentence. -/
def georgian : CharSet := .mk
   [(0x10D0, 0x10FA), (0x10FD, 0x10FF), (0x1C90, 0x1CBA), (0x1CBD, 0x1CBF)]

def lower : CharSet :=
  lowercase.diff (graphemeExtend.union georgian)

def upper : CharSet :=
  (titlecaseLetter.union uppercase).diff georgian

def otherLetters : CharSet :=
  (alphabetic.insertRange 0x5F3 0x5F3).diff (.unions [lower, upper, extend])

/-- Full stops, which may also stand inside of a sentence. -/
def ambiguousEnd : CharSet := .mk
   [(0x2E, 0x2E), (0x2024, 0x2024), (0xFE52, 0xFE52), (0xFF0E, 0xFF0E)]

def ending : CharSet :=
  sentenceTerminal.diff ambiguousEnd

def quoteSigns : CharSet := .mk
   [(0x22, 0x22), (0x27, 0x27), (0x275B, 0x2760), (0x2E00, 0x2E01), (0x2E06, 0x2E08),
    (0x2E0B, 0x2E0B), (0x1F676, 0x1F678)]

def closing : CharSet :=
  .unions [openPunctuation, closePunctuation, initialPunctuation, finalPunctuation, quoteSigns]

def continuing : CharSet := .mk
   [(0x2C, 0x2D), (0x3A, 0x3B), (0x37E, 0x37E), (0x55D, 0x55D), (0x60C, 0x60D), (0x7F8, 0x7F8),
    (0x1802, 0x1802), (0x1808, 0x1808), (0x2013, 0x2014), (0x3001, 0x3001), (0xFE10, 0xFE11),
    (0xFE13, 0xFE14), (0xFE31, 0xFE32), (0xFE50, 0xFE51), (0xFE54, 0xFE55), (0xFE58, 0xFE58),
    (0xFE63, 0xFE63), (0xFF0C, 0xFF0D), (0xFF1A, 0xFF1B), (0xFF64, 0xFF64)]

def separating : CharSet := .mk
   [(0x85, 0x85), (0x2028, 0x2029)]

def blanks : CharSet :=
  whiteSpace.diff (.unions [.range 0xA 0xA, .range 0xD 0xD, separating])

def values : List (List String × CharSet) := [
  (["at", "aterm"], ambiguousEnd),
  (["cl", "close"], closing),
  (["cr"], .range 0xD 0xD),
  (["ex", "extend"], extend),
  (["fo", "format"], formats),
  (["le", "oletter"], otherLetters),
  (["lf"], .range 0xA 0xA),
  (["lo", "lower"], lower),
  (["nu", "numeric"], numeric),
  (["sc", "scontinue"], continuing),
  (["se", "sep"], separating),
  (["sp"], blanks),
  (["st", "sterm"], ending),
  (["up", "upper"], upper)]

end SentenceBreak

end Highlight.Unicode

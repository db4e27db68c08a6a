import Highlight.Unicode.Trait
import Highlight.Unicode.CaseMap

/-! # Characters of the latest version

Patterns know the characters of version 16 of the standard. Wherever a text itself is read or
written, those of version 17 count as well: their case is changed, they may stand in a name, and
messages show them. This module lists what that version added, by general category, and gives the
properties that texts need.

`lowercaseText` replaces every character by its lower case. Two characters need more than the case
map: the dotted capital I becomes two characters, and a capital sigma becomes the final form at the
end of a word.
-/

namespace Highlight.Unicode

namespace Recent

def addedUppercase : CharSet := .mk
   [(0xA7CE, 0xA7CE), (0xA7D2, 0xA7D2), (0xA7D4, 0xA7D4), (0x16EA0, 0x16EB8)]

def addedLowercase : CharSet := .mk
   [(0xA7CF, 0xA7CF), (0x16EBB, 0x16ED3)]

def addedModifiers : CharSet := .mk
   [(0xA7F1, 0xA7F1), (0x10EC5, 0x10EC5), (0x11DD9, 0x11DD9), (0x16FF2, 0x16FF3),
    (0x1E6FF, 0x1E6FF)]

def addedOtherLetters : CharSet := .mk
   [(0x88F, 0x88F), (0xC5C, 0xC5C), (0xCDC, 0xCDC), (0x10940, 0x10959), (0x10EC6, 0x10EC7),
    (0x11DB0, 0x11DD8), (0x11DDA, 0x11DDB), (0x187F8, 0x187FF), (0x18D09, 0x18D1E),
    (0x18D80, 0x18DF2), (0x1E6C0, 0x1E6DE), (0x1E6E0, 0x1E6E2), (0x1E6E4, 0x1E6E5),
    (0x1E6E7, 0x1E6ED), (0x1E6F0, 0x1E6F4), (0x1E6FE, 0x1E6FE), (0x2B73A, 0x2B73F),
    (0x2CEA2, 0x2CEAD), (0x323B0, 0x33479)]

def addedNonspacing : CharSet := .mk
   [(0x1ACF, 0x1ADD), (0x1AE0, 0x1AEB), (0x10EFA, 0x10EFB), (0x11B60, 0x11B60),
    (0x11B62, 0x11B64), (0x11B66, 0x11B66), (0x1E6E3, 0x1E6E3), (0x1E6E6, 0x1E6E6),
    (0x1E6EE, 0x1E6EF), (0x1E6F5, 0x1E6F5)]

def addedSpacing : CharSet := .mk
   [(0x11B61, 0x11B61), (0x11B65, 0x11B65), (0x11B67, 0x11B67)]

def addedDigits : CharSet := .mk
   [(0x11DE0, 0x11DE9)]

def addedLetterNumbers : CharSet := .mk
   [(0x16FF4, 0x16FF6)]

def addedSymbols : CharSet := .mk
   [(0x20C1, 0x20C1), (0x2B96, 0x2B96), (0xFBC3, 0xFBD2), (0xFD90, 0xFD91), (0xFDC8, 0xFDCE),
    (0x10ED0, 0x10ED8), (0x1CCFA, 0x1CCFC), (0x1CEBA, 0x1CED0), (0x1CEE0, 0x1CEF0),
    (0x1F6D8, 0x1F6D8), (0x1F777, 0x1F77A), (0x1F8D0, 0x1F8D8), (0x1FA54, 0x1FA57),
    (0x1FA8A, 0x1FA8A), (0x1FA8E, 0x1FA8E), (0x1FAC8, 0x1FAC8), (0x1FACD, 0x1FACD),
    (0x1FAEA, 0x1FAEA), (0x1FAEF, 0x1FAEF), (0x1FBFA, 0x1FBFA)]

def added : CharSet :=
  .unions [addedUppercase, addedLowercase, addedModifiers, addedOtherLetters, addedNonspacing,
    addedSpacing, addedDigits, addedLetterNumbers, addedSymbols]

/-- Marks that only sit above or below letters of other scripts and are no letters themselves. -/
def addedAccents : CharSet := .mk
   [(0x1ACF, 0x1ADD), (0x1AE0, 0x1AEB)]

def alphabetic : CharSet :=
  .unions [Unicode.alphabetic, addedUppercase, addedLowercase, addedModifiers, addedOtherLetters,
    addedLetterNumbers, addedNonspacing.diff addedAccents, addedSpacing]

def alphanumeric : CharSet :=
  .unions [alphabetic, numeral, addedDigits]

def lostCase : CharSet := .range 0x295 0x295

def addedCasedModifier : CharSet := .range 0xA7F1 0xA7F1

def cased : CharSet :=
  .unions [Unicode.cased.diff lostCase, addedUppercase, addedLowercase, addedCasedModifier]

def caseIgnorable : CharSet :=
  .unions [Unicode.caseIgnorable, addedNonspacing, addedModifiers]

def graphemeExtend : CharSet :=
  Unicode.graphemeExtend.union addedNonspacing

def addedLowerMap : List Stretch :=
   [⟨0xA7CE, 0xA7CE, 1, 0xA7CF⟩, ⟨0xA7D2, 0xA7D4, 2, 0xA7D3⟩, ⟨0x16EA0, 0x16EB8, 1, 0x16EBB⟩]

def lowerMap : List Stretch :=
  Unicode.lowerMap ++ addedLowerMap

/-- Halfwidth sound marks: they extend the letter before them and still have a shape. -/
def soundMarks : CharSet := .range 0xFF9E 0xFF9F

def shown : CharSet :=
  (CharSet.diff (.unions [letter, mark, numeral, punctuation, symbol, added])
    (defaultIgnorable.union (graphemeExtend.diff soundMarks))).insertRange 32 32

end Recent

/-- Is the nearest character that case does not ignore a cased one? -/
def startsCased (cs : List Char) : Bool :=
  match cs.dropWhile Recent.caseIgnorable.contains with
  | [] => false
  | c :: _ => Recent.cased.contains c

/-- The lower case of one character between the text before it, nearest first, and after it. -/
def lowerChar (before : List Char) (c : Char) (after : List Char) : List Char :=
  if c = 'Σ' then if startsCased before && !startsCased after then ['ς'] else ['σ']
  else if c = 'İ' then ['i', Char.ofNat 0x307]
  else [Char.ofNat (mapCode Recent.lowerMap c.toNat)]

def lowerFrom (before : List Char) : List Char → List Char
  | [] => []
  | c :: cs => lowerChar before c cs ++ lowerFrom (c :: before) cs

def lowercaseText (s : String) : String :=
  String.ofList (lowerFrom [] s.toList)

end Highlight.Unicode

import ExcerptSearch.Unicode.BinaryProperty
import ExcerptSearch.Unicode.Script

namespace ExcerptSearch.Unicode
open BinaryProperty

-- The classes of characters by which a text is cut into the units that a reader sees as one
-- character. The rest of the characters have no class that can be asked for.
inductive GraphemeBreak where
  | cr
  | lf
  | control
  | extend
  | leadingJamo
  | vowelJamo
  | trailingJamo
  | openSyllable
  | closedSyllable
  | prepend
  | regionalIndicator
  | spacingMark
  | zwj
  deriving DecidableEq

def leadingJamo : SpanTree Unit :=
  runs [(0x1100, 0x115f), (0xa960, 0xa97c)]

def vowelJamo : SpanTree Unit :=
  runs [(0x1160, 0x11a7), (0xd7b0, 0xd7c6), (0x16d63, 0x16d63), (0x16d67, 0x16d6a)]

def trailingJamo : SpanTree Unit :=
  runs [(0x11a8, 0x11ff), (0xd7cb, 0xd7fb)]

def prependedLetter : SpanTree Unit := runs [
  (0x0d4e, 0x0d4e), (0x111c2, 0x111c3), (0x113d1, 0x113d1), (0x1193f, 0x1193f), (0x11941, 0x11941),
  (0x11a3a, 0x11a3a), (0x11a84, 0x11a89), (0x11d46, 0x11d46), (0x11f02, 0x11f02)]

def unspacedMark : SpanTree Unit := runs [
  (0x102b, 0x102c), (0x1038, 0x1038), (0x1062, 0x1064), (0x1067, 0x106d), (0x1083, 0x1083),
  (0x1087, 0x108c), (0x108f, 0x108f), (0x109a, 0x109c), (0x1a61, 0x1a61), (0x1a63, 0x1a64),
  (0xaa7b, 0xaa7b), (0xaa7d, 0xaa7d), (0x11720, 0x11721)]

def isSyllable (c : Char) : Bool :=
  isIn 0xac00 0xd7a3 c

-- Syllables are ordered by their last consonant, and the first in each block of 28 has none.
def isOpenSyllable (c : Char) : Bool :=
  isSyllable c && (c.toNat - 0xac00) % 28 == 0

def isControl (c : Char) : Bool :=
  hasCategory [.zl, .zp, .cc, .cf] c || hasCategory [.cn] c && isDefaultIgnorable c

def isSpacingMark (c : Char) : Bool :=
  hasCategory [.mc] c && !unspacedMark.has c || c == '\u0e33' || c == '\u0eb3'

def extendsGrapheme (c : Char) : Bool :=
  isGraphemeExtend c || PropertyList.emojiModifier.has c

-- The classes of which several could hold are told apart by the order of the questions.
def graphemeBreak? (c : Char) : Option GraphemeBreak :=
  if c == '\r' then some .cr
  else if c == '\n' then some .lf
  else if c == '\u200d' then some .zwj
  else if extendsGrapheme c then some .extend
  else if PropertyList.prependedConcatenationMark.has c || prependedLetter.has c then some .prepend
  else if isControl c then some .control
  else if PropertyList.regionalIndicator.has c then some .regionalIndicator
  else if isSpacingMark c then some .spacingMark
  else if leadingJamo.has c then some .leadingJamo
  else if vowelJamo.has c then some .vowelJamo
  else if trailingJamo.has c then some .trailingJamo
  else if isOpenSyllable c then some .openSyllable
  else if isSyllable c then some .closedSyllable
  else none

def GraphemeBreak.names : List (GraphemeBreak × List String) := [
  (cr, ["cr"]), (lf, ["lf"]), (control, ["cn", "control"]), (extend, ["ex", "extend"]),
  (leadingJamo, ["l"]), (vowelJamo, ["v"]), (trailingJamo, ["t"]), (openSyllable, ["lv"]),
  (closedSyllable, ["lvt"]), (prepend, ["pp", "prepend"]),
  (regionalIndicator, ["ri", "regionalindicator"]), (spacingMark, ["sm", "spacingmark"]),
  (zwj, ["zwj"])]

inductive WordBreak where
  | cr
  | lf
  | newline
  | zwj
  | extend
  | regionalIndicator
  | format
  | katakana
  | hebrewLetter
  | singleQuote
  | doubleQuote
  | midLetter
  | midNum
  | midNumLet
  | numeric
  | extendNumLet
  | wSegSpace
  | aLetter
  deriving DecidableEq

def otherKatakana : SpanTree Unit :=
  runs [(0x3031, 0x3035), (0x309b, 0x309c), (0x30a0, 0x30a0), (0x30fc, 0x30fc), (0xff70, 0xff70)]

def midLetter : SpanTree Unit := runs [
  (0x003a, 0x003a), (0x00b7, 0x00b7), (0x0387, 0x0387), (0x055f, 0x055f), (0x05f4, 0x05f4),
  (0x2027, 0x2027), (0xfe13, 0xfe13), (0xfe55, 0xfe55), (0xff1a, 0xff1a)]

def midNum : SpanTree Unit := runs [
  (0x002c, 0x002c), (0x003b, 0x003b), (0x037e, 0x037e), (0x0589, 0x0589), (0x060c, 0x060d),
  (0x066c, 0x066c), (0x07f8, 0x07f8), (0x2044, 0x2044), (0xfe50, 0xfe50), (0xfe54, 0xfe54),
  (0xff0c, 0xff0c), (0xff1b, 0xff1b)]

def midNumLet : SpanTree Unit := runs [
  (0x002e, 0x002e), (0x2018, 0x2019), (0x2024, 0x2024), (0xfe52, 0xfe52), (0xff07, 0xff07),
  (0xff0e, 0xff0e)]

def otherNumeric : SpanTree Unit := runs [
  (0x0600, 0x0605), (0x066b, 0x066b), (0x06dd, 0x06dd), (0x0890, 0x0891), (0x08e2, 0x08e2),
  (0x19da, 0x19da), (0x110bd, 0x110bd), (0x110cd, 0x110cd)]

def otherLetter : SpanTree Unit := runs [
  (0x02c2, 0x02c5), (0x02d2, 0x02d7), (0x02de, 0x02df), (0x02e5, 0x02eb), (0x02ed, 0x02ed),
  (0x02ef, 0x02ff), (0x055a, 0x055c), (0x055e, 0x055e), (0x058a, 0x058a), (0x05f3, 0x05f3),
  (0x070f, 0x070f), (0xa708, 0xa716), (0xa720, 0xa721), (0xa789, 0xa78a), (0xab5b, 0xab5b)]

-- The letters of scripts in which spaces do not show where words end.
def complexContext : SpanTree Unit := runs [
  (0x0e01, 0x0e30), (0x0e32, 0x0e33), (0x0e40, 0x0e46), (0x0e81, 0x0e82), (0x0e84, 0x0e84),
  (0x0e86, 0x0e8a), (0x0e8c, 0x0ea3), (0x0ea5, 0x0ea5), (0x0ea7, 0x0eb0), (0x0eb2, 0x0eb3),
  (0x0ebd, 0x0ebd), (0x0ec0, 0x0ec4), (0x0ec6, 0x0ec6), (0x0edc, 0x0edf), (0x1000, 0x102a),
  (0x103f, 0x103f), (0x1050, 0x1055), (0x105a, 0x105d), (0x1061, 0x1061), (0x1065, 0x1066),
  (0x106e, 0x1070), (0x1075, 0x1081), (0x108e, 0x108e), (0x1780, 0x17b3), (0x17d7, 0x17d7),
  (0x17dc, 0x17dc), (0x1950, 0x196d), (0x1970, 0x1974), (0x1980, 0x19ab), (0x19b0, 0x19c9),
  (0x1a20, 0x1a54), (0x1aa7, 0x1aa7), (0xa9e0, 0xa9e4), (0xa9e6, 0xa9ef), (0xa9fa, 0xa9fe),
  (0xaa60, 0xaa76), (0xaa7a, 0xaa7a), (0xaa7e, 0xaaaf), (0xaab1, 0xaab1), (0xaab5, 0xaab6),
  (0xaab9, 0xaabd), (0xaac0, 0xaac0), (0xaac2, 0xaac2), (0xaadb, 0xaadd), (0x11700, 0x1171a),
  (0x11740, 0x11746)]

def isNewline (c : Char) : Bool :=
  c == '\x0b' || c == '\x0c' || c == '\u0085' || c == '\u2028' || c == '\u2029'

def isNumericInText (c : Char) : Bool :=
  hasCategory [.nd] c || otherNumeric.has c

def isLetterInWord (c : Char) : Bool :=
  otherLetter.has c ||
    BinaryProperty.isAlphabetic c && !isIdeographic c && script? c != some .hiragana &&
      !complexContext.has c

def wordBreak? (c : Char) : Option WordBreak :=
  if c == '\r' then some .cr
  else if c == '\n' then some .lf
  else if isNewline c then some .newline
  else if c == '\u200d' then some .zwj
  else if extendsGrapheme c || hasCategory [.mc] c then some .extend
  else if PropertyList.regionalIndicator.has c then some .regionalIndicator
  else if hasCategory [.cf] c && c != '\u200b' &&
      !PropertyList.prependedConcatenationMark.has c then some .format
  else if script? c == some .katakana || otherKatakana.has c then some .katakana
  else if script? c == some .hebrew && hasCategory [.lo] c then some .hebrewLetter
  else if c == '\x27' then some .singleQuote
  else if c == '\x22' then some .doubleQuote
  else if midLetter.has c then some .midLetter
  else if midNum.has c then some .midNum
  else if midNumLet.has c then some .midNumLet
  else if isNumericInText c then some .numeric
  else if hasCategory [.pc] c || c == '\u202f' then some .extendNumLet
  else if hasCategory [.zs] c && c != '\u00a0' && c != '\u2007' then some .wSegSpace
  else if isLetterInWord c then some .aLetter
  else none

def WordBreak.names : List (WordBreak × List String) := [
  (cr, ["cr"]), (lf, ["lf"]), (newline, ["nl", "newline"]), (zwj, ["zwj"]), (extend, ["extend"]),
  (regionalIndicator, ["ri", "regionalindicator"]), (format, ["fo", "format"]),
  (katakana, ["ka", "katakana"]), (hebrewLetter, ["hl", "hebrewletter"]),
  (singleQuote, ["sq", "singlequote"]), (doubleQuote, ["dq", "doublequote"]),
  (midLetter, ["ml", "midletter"]), (midNum, ["mn", "midnum"]), (midNumLet, ["mb", "midnumlet"]),
  (numeric, ["nu", "numeric"]), (extendNumLet, ["ex", "extendnumlet"]),
  (wSegSpace, ["wsegspace"]), (aLetter, ["le", "aletter"])]

inductive SentenceBreak where
  | cr
  | lf
  | extend
  | sep
  | numeric
  | format
  | sp
  | lower
  | upper
  | oLetter
  | aTerm
  | sContinue
  | sTerm
  | close
  deriving DecidableEq

def sentenceDot : SpanTree Unit :=
  runs [(0x002e, 0x002e), (0x2024, 0x2024), (0xfe52, 0xfe52), (0xff0e, 0xff0e)]

def sentenceContinue : SpanTree Unit := runs [
  (0x002c, 0x002d), (0x003a, 0x003b), (0x037e, 0x037e), (0x055d, 0x055d), (0x060c, 0x060d),
  (0x07f8, 0x07f8), (0x1802, 0x1802), (0x1808, 0x1808), (0x2013, 0x2014), (0x3001, 0x3001),
  (0xfe10, 0xfe11), (0xfe13, 0xfe14), (0xfe31, 0xfe32), (0xfe50, 0xfe51), (0xfe54, 0xfe55),
  (0xfe58, 0xfe58), (0xfe63, 0xfe63), (0xff0c, 0xff0d), (0xff1a, 0xff1b), (0xff64, 0xff64)]

def otherQuotation : SpanTree Unit := runs [
  (0x0022, 0x0022), (0x0027, 0x0027), (0x275b, 0x2760), (0x2e00, 0x2e01), (0x2e06, 0x2e08),
  (0x2e0b, 0x2e0b), (0x1f676, 0x1f678)]

def sentenceBreak? (c : Char) : Option SentenceBreak :=
  if c == '\r' then some .cr
  else if c == '\n' then some .lf
  else if isGraphemeExtend c || hasCategory [.mc] c || c == '\u200d' then some .extend
  else if c == '\u0085' || c == '\u2028' || c == '\u2029' then some .sep
  else if isNumericInText c || c == '\u066c' then some .numeric
  else if hasCategory [.cf] c then some .format
  else if isWhiteSpace c then some .sp
  else if isLowercase c && !isMkhedruli c then some .lower
  else if (isUppercase c || hasCategory [.lt] c) && !isIn 0x1c90 0x1cbf c then some .upper
  else if BinaryProperty.isAlphabetic c || c == '\u05f3' then some .oLetter
  else if sentenceDot.has c then some .aTerm
  else if sentenceContinue.has c then some .sContinue
  else if PropertyList.sentenceTerminal.has c then some .sTerm
  else if hasCategory [.ps, .pe, .pi, .pf] c || otherQuotation.has c then some .close
  else none

def SentenceBreak.names : List (SentenceBreak × List String) := [
  (cr, ["cr"]), (lf, ["lf"]), (extend, ["ex", "extend"]), (sep, ["se", "sep"]),
  (numeric, ["nu", "numeric"]), (format, ["fo", "format"]), (sp, ["sp"]),
  (lower, ["lo", "lower"]), (upper, ["up", "upper"]), (oLetter, ["le", "oletter"]),
  (aTerm, ["at", "aterm"]), (sContinue, ["sc", "scontinue"]), (sTerm, ["st", "sterm"]),
  (close, ["cl", "close"])]

end ExcerptSearch.Unicode

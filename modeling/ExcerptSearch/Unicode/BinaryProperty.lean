import ExcerptSearch.Unicode.CaseFold
import ExcerptSearch.Unicode.Category
import ExcerptSearch.Unicode.PropertyList
import ExcerptSearch.Unicode.WhiteSpace

namespace ExcerptSearch.Unicode

inductive BinaryProperty where
  | asciiHexDigit
  | alphabetic
  | bidiControl
  | bidiMirrored
  | caseIgnorable
  | cased
  | changesWhenCasefolded
  | changesWhenCasemapped
  | changesWhenLowercased
  | changesWhenTitlecased
  | changesWhenUppercased
  | dash
  | defaultIgnorable
  | deprecated
  | diacritic
  | emoji
  | emojiComponent
  | emojiModifier
  | emojiModifierBase
  | emojiPresentation
  | extendedPictographic
  | extender
  | graphemeBase
  | graphemeExtend
  | graphemeLink
  | hexDigit
  | hyphen
  | idsBinaryOperator
  | idsTrinaryOperator
  | idsUnaryOperator
  | idCompatMathContinue
  | idCompatMathStart
  | idContinue
  | idStart
  | ideographic
  | joinControl
  | logicalOrderException
  | lowercase
  | math
  | modifierCombiningMark
  | noncharacter
  | otherAlphabetic
  | otherDefaultIgnorable
  | otherGraphemeExtend
  | otherIdContinue
  | otherIdStart
  | otherLowercase
  | otherMath
  | otherUppercase
  | patternSyntax
  | patternWhiteSpace
  | prependedConcatenationMark
  | quotationMark
  | radical
  | regionalIndicator
  | sentenceTerminal
  | softDotted
  | terminalPunctuation
  | unifiedIdeograph
  | uppercase
  | variationSelector
  | whiteSpace
  | xidContinue
  | xidStart
  deriving DecidableEq

def hasCategory (cs : List Category) (c : Char) : Bool :=
  cs.contains (category c)

def isIn (lo hi : Nat) (c : Char) : Bool :=
  lo ≤ c.toNat && c.toNat ≤ hi

namespace BinaryProperty

def isLowercase (c : Char) : Bool :=
  hasCategory [.ll] c || PropertyList.otherLowercase.has c

def isUppercase (c : Char) : Bool :=
  hasCategory [.lu] c || PropertyList.otherUppercase.has c

def hasOtherCase (c : Char) : Bool :=
  nextCase c != c

def changesInLowercase (c : Char) : Bool :=
  (isUppercase c || hasCategory [.lt] c) && hasOtherCase c || c == 'İ'

def changesInUppercase (c : Char) : Bool :=
  (isLowercase c || hasCategory [.lt] c) && hasOtherCase c ||
    PropertyList.expandedInUppercase.has c

-- The letters of the Georgian Mkhedruli alphabet, whose capitals do not begin words.
def isMkhedruli (c : Char) : Bool :=
  isIn 0x10d0 0x10fa c || isIn 0x10fd 0x10ff c

def isCapitalDigraph (c : Char) : Bool :=
  c == 'Ǆ' || c == 'Ǉ' || c == 'Ǌ' || c == 'Ǳ'

def changesInTitlecase (c : Char) : Bool :=
  changesInUppercase c && !hasCategory [.lt] c && !isMkhedruli c || isCapitalDigraph c

def changesInFolding (c : Char) : Bool :=
  changesInLowercase c && !isIn 0x13a0 0x13f5 c || PropertyList.changedByFolding.has c

-- Format characters are to be ignored where they cannot be shown, but for those that are signs.
def isDefaultIgnorable (c : Char) : Bool :=
  PropertyList.otherDefaultIgnorable.has c || PropertyList.variationSelector.has c ||
    hasCategory [.cf] c && !PropertyList.prependedConcatenationMark.has c &&
      !isIn 0xfff9 0xfffb c && !isIn 0x13430 0x1343f c

def isGraphemeExtend (c : Char) : Bool :=
  hasCategory [.mn, .me] c || PropertyList.otherGraphemeExtend.has c

def isAlphabetic (c : Char) : Bool :=
  hasCategory (.nl :: Category.letters) c || PropertyList.otherAlphabetic.has c

def isIdStart (c : Char) : Bool :=
  (hasCategory (.nl :: Category.letters) c || PropertyList.otherIdStart.has c) &&
    !PropertyList.patternSyntax.has c

def isIdContinue (c : Char) : Bool :=
  isIdStart c || hasCategory [.mn, .mc, .nd, .pc] c || PropertyList.otherIdContinue.has c

def isIdeographic (c : Char) : Bool :=
  PropertyList.unifiedIdeograph.has c || PropertyList.otherIdeographic.has c

def isNoncharacter (c : Char) : Bool :=
  isIn 0xfdd0 0xfdef c || 0xfffe ≤ c.toNat % 0x10000

def holds : BinaryProperty → Char → Bool
  | asciiHexDigit, c              => PropertyList.asciiHexDigit.has c
  | alphabetic, c                 => isAlphabetic c
  | bidiControl, c                => PropertyList.bidiControl.has c
  | bidiMirrored, c               => PropertyList.bidiMirrored.has c
  | caseIgnorable, c              =>
    hasCategory [.mn, .me, .cf, .lm, .sk] c || PropertyList.wordInner.has c
  | cased, c                      => isLowercase c || isUppercase c || hasCategory [.lt] c
  | changesWhenCasefolded, c      => changesInFolding c
  | changesWhenCasemapped, c      => changesInLowercase c || changesInUppercase c
  | changesWhenLowercased, c      => changesInLowercase c
  | changesWhenTitlecased, c      => changesInTitlecase c
  | changesWhenUppercased, c      => changesInUppercase c
  | dash, c                       => hasCategory [.pd] c || PropertyList.otherDash.has c
  | defaultIgnorable, c           => isDefaultIgnorable c
  | deprecated, c                 => PropertyList.deprecated.has c
  | diacritic, c                  => PropertyList.diacritic.has c
  | emoji, c                      => PropertyList.emoji.has c
  | emojiComponent, c             => PropertyList.emojiComponent.has c
  | emojiModifier, c              => PropertyList.emojiModifier.has c
  | emojiModifierBase, c          => PropertyList.emojiModifierBase.has c
  | emojiPresentation, c          => PropertyList.emojiPresentation.has c
  | extendedPictographic, c       => PropertyList.extendedPictographic.has c
  | extender, c                   => PropertyList.extender.has c
  | graphemeBase, c               =>
    !hasCategory (.zl :: .zp :: Category.others) c && !isGraphemeExtend c
  | graphemeExtend, c             => isGraphemeExtend c
  | graphemeLink, c               => PropertyList.graphemeLink.has c
  | hexDigit, c                   => PropertyList.hexDigit.has c
  | hyphen, c                     => PropertyList.hyphen.has c
  | idsBinaryOperator, c          => PropertyList.idsBinaryOperator.has c
  | idsTrinaryOperator, c         => PropertyList.idsTrinaryOperator.has c
  | idsUnaryOperator, c           => PropertyList.idsUnaryOperator.has c
  | idCompatMathContinue, c       =>
    PropertyList.idCompatMathStart.has c || PropertyList.idCompatMathDigit.has c
  | idCompatMathStart, c          => PropertyList.idCompatMathStart.has c
  | idContinue, c                 => isIdContinue c
  | idStart, c                    => isIdStart c
  | ideographic, c                => isIdeographic c
  | joinControl, c                => PropertyList.joinControl.has c
  | logicalOrderException, c      => PropertyList.logicalOrderException.has c
  | lowercase, c                  => isLowercase c
  | math, c                       => hasCategory [.sm] c || PropertyList.otherMath.has c
  | modifierCombiningMark, c      => PropertyList.modifierCombiningMark.has c
  | noncharacter, c               => isNoncharacter c
  | otherAlphabetic, c            => PropertyList.otherAlphabetic.has c
  | otherDefaultIgnorable, c      => PropertyList.otherDefaultIgnorable.has c
  | otherGraphemeExtend, c        => PropertyList.otherGraphemeExtend.has c
  | otherIdContinue, c            => PropertyList.otherIdContinue.has c
  | otherIdStart, c               => PropertyList.otherIdStart.has c
  | otherLowercase, c             => PropertyList.otherLowercase.has c
  | otherMath, c                  => PropertyList.otherMath.has c
  | otherUppercase, c             => PropertyList.otherUppercase.has c
  | patternSyntax, c              => PropertyList.patternSyntax.has c
  | patternWhiteSpace, c          => PropertyList.patternWhiteSpace.has c
  | prependedConcatenationMark, c => PropertyList.prependedConcatenationMark.has c
  | quotationMark, c              => PropertyList.quotationMark.has c
  | radical, c                    => PropertyList.radical.has c
  | regionalIndicator, c          => PropertyList.regionalIndicator.has c
  | sentenceTerminal, c           => PropertyList.sentenceTerminal.has c
  | softDotted, c                 => PropertyList.softDotted.has c
  | terminalPunctuation, c        => PropertyList.terminalPunctuation.has c
  | unifiedIdeograph, c           => PropertyList.unifiedIdeograph.has c
  | uppercase, c                  => isUppercase c
  | variationSelector, c          => PropertyList.variationSelector.has c
  | whiteSpace, c                 => isWhiteSpace c
  | xidContinue, c                => isIdContinue c && !PropertyList.notXidContinue.has c
  | xidStart, c                   => isIdStart c && !PropertyList.notXidStart.has c

def names : List (BinaryProperty × List String) := [
  (asciiHexDigit, ["ahex", "asciihexdigit"]),
  (alphabetic, ["alpha", "alphabetic"]),
  (bidiControl, ["bidic", "bidicontrol"]),
  (bidiMirrored, ["bidim", "bidimirrored"]),
  (caseIgnorable, ["ci", "caseignorable"]),
  (cased, ["cased"]),
  (changesWhenCasefolded, ["cwcf", "changeswhencasefolded"]),
  (changesWhenCasemapped, ["cwcm", "changeswhencasemapped"]),
  (changesWhenLowercased, ["cwl", "changeswhenlowercased"]),
  (changesWhenTitlecased, ["cwt", "changeswhentitlecased"]),
  (changesWhenUppercased, ["cwu", "changeswhenuppercased"]),
  (dash, ["dash"]),
  (defaultIgnorable, ["di", "defaultignorablecodepoint"]),
  (deprecated, ["dep", "deprecated"]),
  (diacritic, ["dia", "diacritic"]),
  (emoji, ["emoji"]),
  (emojiComponent, ["ecomp", "emojicomponent"]),
  (emojiModifier, ["emod", "emojimodifier"]),
  (emojiModifierBase, ["ebase", "emojimodifierbase"]),
  (emojiPresentation, ["epres", "emojipresentation"]),
  (extendedPictographic, ["extpict", "extendedpictographic"]),
  (extender, ["ext", "extender"]),
  (graphemeBase, ["grbase", "graphemebase"]),
  (graphemeExtend, ["grext", "graphemeextend"]),
  (graphemeLink, ["grlink", "graphemelink"]),
  (hexDigit, ["hex", "hexdigit"]),
  (hyphen, ["hyphen"]),
  (idsBinaryOperator, ["idsb", "idsbinaryoperator"]),
  (idsTrinaryOperator, ["idst", "idstrinaryoperator"]),
  (idsUnaryOperator, ["idsu", "idsunaryoperator"]),
  (idCompatMathContinue, ["idcompatmathcontinue"]),
  (idCompatMathStart, ["idcompatmathstart"]),
  (idContinue, ["idc", "idcontinue"]),
  (idStart, ["ids", "idstart"]),
  (ideographic, ["ideo", "ideographic"]),
  (joinControl, ["joinc", "joincontrol"]),
  (logicalOrderException, ["loe", "logicalorderexception"]),
  (lowercase, ["lower", "lowercase"]),
  (math, ["math"]),
  (modifierCombiningMark, ["mcm", "modifiercombiningmark"]),
  (noncharacter, ["nchar", "noncharactercodepoint"]),
  (otherAlphabetic, ["oalpha", "otheralphabetic"]),
  (otherDefaultIgnorable, ["odi", "otherdefaultignorablecodepoint"]),
  (otherGraphemeExtend, ["ogrext", "othergraphemeextend"]),
  (otherIdContinue, ["oidc", "otheridcontinue"]),
  (otherIdStart, ["oids", "otheridstart"]),
  (otherLowercase, ["olower", "otherlowercase"]),
  (otherMath, ["omath", "othermath"]),
  (otherUppercase, ["oupper", "otheruppercase"]),
  (patternSyntax, ["patsyn", "patternsyntax"]),
  (patternWhiteSpace, ["patws", "patternwhitespace"]),
  (prependedConcatenationMark, ["pcm", "prependedconcatenationmark"]),
  (quotationMark, ["qmark", "quotationmark"]),
  (radical, ["radical"]),
  (regionalIndicator, ["ri", "regionalindicator"]),
  (sentenceTerminal, ["sterm", "sentenceterminal"]),
  (softDotted, ["sd", "softdotted"]),
  (terminalPunctuation, ["term", "terminalpunctuation"]),
  (unifiedIdeograph, ["uideo", "unifiedideograph"]),
  (uppercase, ["upper", "uppercase"]),
  (variationSelector, ["vs", "variationselector"]),
  (whiteSpace, ["space", "wspace", "whitespace"]),
  (xidContinue, ["xidc", "xidcontinue"]),
  (xidStart, ["xids", "xidstart"])]

end BinaryProperty
end ExcerptSearch.Unicode

import Screencast.Text.Addition
import Screencast.Text.Category
import Screencast.Text.CharSet
import Screencast.Text.Property.Table

/-!
The properties of Unicode 16 that a character has or has not. Most are put together from categories
and a table of what else they hold.
-/

namespace Screencast.Text

/-- A property: the members of some tables that are in none of others. -/
structure Property where
  /-- The full name, and short ones, in small letters without the marks between words. -/
  names : List String
  members : List (List (Nat × Nat))
  others : List (List (Nat × Nat))

namespace Property

open Category

/-! ### Properties that a character has or has not -/

/-- Letters. -/
def letters : List (List (Nat × Nat)) :=
  [uppercaseLetter, lowercaseLetter, titlecaseLetter, modifierLetter, otherLetter]

/-- Characters in lower case. -/
def lowercase : List (List (Nat × Nat)) := [lowercaseLetter, moreLowercase]

/-- Characters in upper case. -/
def uppercase : List (List (Nat × Nat)) := [uppercaseLetter, moreUppercase]

/-- Alphabetic characters. -/
def alphabetic : List (List (Nat × Nat)) := letters ++ [letterNumber, moreAlphabetic]

/-- Marks. -/
def marks : List (List (Nat × Nat)) := [nonspacingMark, spacingMark, enclosingMark]

/-- Characters that extend the one before them. -/
def extending : List (List (Nat × Nat)) := [nonspacingMark, enclosingMark, moreExtending]

/-- Characters at which identifiers start, before exceptions. -/
def idStart : List (List (Nat × Nat)) := letters ++ [letterNumber, moreIdStart]

/-- Characters inside identifiers, before exceptions. -/
def idContinue : List (List (Nat × Nat)) :=
  idStart ++
    [nonspacingMark, spacingMark, decimalNumber, connectorPunctuation, moreIdContinue]

/-- Code points without a glyph of their own. -/
def unprinted : List (List (Nat × Nat)) :=
  [control, format, privateUse, surrogate, unassigned, lineSeparator, paragraphSeparator]

/-- All code points. -/
def everything : List (Nat × Nat) := [(0, CharSet.lastPoint)]

/-- The properties that are tables of their own. -/
def plain : List Property :=
  [⟨["asciihexdigit", "ahex"], [asciiHexDigit], []⟩,
   ⟨["bidicontrol", "bidic"], [bidiControl], []⟩,
   ⟨["bidimirrored", "bidim"], [bidiMirrored], []⟩,
   ⟨["dash"], [dash], []⟩,
   ⟨["defaultignorablecodepoint", "di"], [ignorable], []⟩,
   ⟨["deprecated", "dep"], [deprecated], []⟩,
   ⟨["diacritic", "dia"], [diacritic], []⟩,
   ⟨["emoji"], [emoji], []⟩,
   ⟨["emojicomponent", "ecomp"], [emojiComponent], []⟩,
   ⟨["emojimodifier", "emod"], [emojiModifier], []⟩,
   ⟨["emojimodifierbase", "ebase"], [emojiModifierBase], []⟩,
   ⟨["emojipresentation", "epres"], [emojiPresentation], []⟩,
   ⟨["extendedpictographic", "extpict"], [pictographic], []⟩,
   ⟨["extender", "ext"], [extender], []⟩,
   ⟨["graphemelink", "grlink"], [graphemeLink], []⟩,
   ⟨["hexdigit", "hex"], [hexDigit], []⟩,
   ⟨["hyphen"], [hyphen], []⟩,
   ⟨["idsbinaryoperator", "idsb"], [binaryDescription], []⟩,
   ⟨["idstrinaryoperator", "idst"], [ternaryDescription], []⟩,
   ⟨["idsunaryoperator", "idsu"], [unaryDescription], []⟩,
   ⟨["idcompatmathcontinue"], [compatMathContinue], []⟩,
   ⟨["idcompatmathstart"], [compatMathStart], []⟩,
   ⟨["ideographic", "ideo"], [ideographic], []⟩,
   ⟨["joincontrol", "joinc"], [joinControl], []⟩,
   ⟨["logicalorderexception", "loe"], [logicalOrderException], []⟩,
   ⟨["modifiercombiningmark", "mcm"], [combiningModifier], []⟩,
   ⟨["noncharactercodepoint", "nchar"], [noncharacter], []⟩,
   ⟨["otheralphabetic", "oalpha"], [moreAlphabetic], []⟩,
   ⟨["othergraphemeextend", "ogrext"], [moreExtending], []⟩,
   ⟨["otheridcontinue", "oidc"], [moreIdContinue], []⟩,
   ⟨["otheridstart", "oids"], [moreIdStart], []⟩,
   ⟨["otherlowercase", "olower"], [moreLowercase], []⟩,
   ⟨["othermath", "omath"], [moreMath], []⟩,
   ⟨["otheruppercase", "oupper"], [moreUppercase], []⟩,
   ⟨["patternsyntax", "patsyn"], [patternSyntax], []⟩,
   ⟨["patternwhitespace", "patws"], [patternWhiteSpace], []⟩,
   ⟨["prependedconcatenationmark", "pcm"], [prependedMark], []⟩,
   ⟨["quotationmark", "qmark"], [quotationMark], []⟩,
   ⟨["radical"], [radical], []⟩,
   ⟨["regionalindicator", "ri"], [regionalIndicator], []⟩,
   ⟨["sentenceterminal", "sterm"], [sentenceTerminal], []⟩,
   ⟨["softdotted", "sd"], [softDotted], []⟩,
   ⟨["terminalpunctuation", "term"], [terminalPunctuation], []⟩,
   ⟨["unifiedideograph", "uideo"], [unifiedIdeograph], []⟩,
   ⟨["variationselector", "vs"], [variationSelector], []⟩,
   ⟨["whitespace", "wspace", "space"], [whiteSpace], []⟩]

/-- The properties that are put together from several tables. -/
def composed : List Property :=
  [⟨["alphabetic", "alpha"], alphabetic, []⟩,
   ⟨["lowercase", "lower"], lowercase, []⟩,
   ⟨["uppercase", "upper"], uppercase, []⟩,
   ⟨["cased"], titlecaseLetter :: lowercase ++ uppercase, []⟩,
   ⟨["caseignorable", "ci"],
    [nonspacingMark, enclosingMark, format, modifierLetter, modifierSymbol, moreCaseIgnorable],
    []⟩,
   ⟨["changeswhencasefolded", "cwcf"],
    titlecaseLetter :: moreCasefolded :: uppercase, [lessCasefolded]⟩,
   ⟨["changeswhencasemapped", "cwcm"],
    titlecaseLetter :: lowercase ++ uppercase, [lessCasemapped]⟩,
   ⟨["changeswhenlowercased", "cwl"], titlecaseLetter :: uppercase, [lessLowercased]⟩,
   ⟨["changeswhentitlecased", "cwt"], moreTitlecased :: lowercase,
    [lessUppercased, lessTitlecased]⟩,
   ⟨["changeswhenuppercased", "cwu"], titlecaseLetter :: lowercase, [lessUppercased]⟩,
   ⟨["graphemebase", "grbase"], [everything], unprinted ++ extending⟩,
   ⟨["graphemeextend", "grext"], extending, []⟩,
   ⟨["idcontinue", "idc"], idContinue, [lessIdStart]⟩,
   ⟨["idstart", "ids"], idStart, [lessIdStart]⟩,
   ⟨["math"], [mathSymbol, moreMath], []⟩,
   ⟨["otherdefaultignorablecodepoint", "odi"], [ignorable], [format, variationSelector]⟩,
   ⟨["xidcontinue", "xidc"], idContinue, [lessIdStart, lessStableContinue]⟩,
   ⟨["xidstart", "xids"], idStart, [lessIdStart, lessStableStart]⟩]

/-- All properties that a character has or has not. -/
def all : List Property := composed ++ plain

/-- The characters with a property. -/
def chars (property : Property) : CharSet :=
  (CharSet.ofTables property.members).diff (CharSet.ofTables property.others)

/-! ### Characters alone

These tests know the additions of Unicode 17 too. -/

/-- A letter, or another character used as one. -/
def isAlphabetic (c : Char) : Bool :=
  (Addition.alphabetic :: alphabetic).any (within · c.toNat)

/-- A digit or another number. -/
def isNumeric (c : Char) : Bool :=
  [Addition.number, decimalNumber, letterNumber, otherNumber].any (within · c.toNat)

end Property

end Screencast.Text

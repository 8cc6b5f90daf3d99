import Screencast.Text.Property

/-!
The parts that characters play where a text is divided into the signs that a reader sees, into
words and into sentences, as Unicode 16 has them. A character that plays none of the parts is not
listed.
-/

namespace Screencast.Text.Property

open Category

/-! ### Tables -/

/-- Letters that belong to the one behind them. -/
def prependedLetter : List (Nat × Nat) :=
  [(0xD4E, 0xD4E), (0x111C2, 0x111C3), (0x113D1, 0x113D1), (0x1193F, 0x1193F), (0x11941, 0x11941),
   (0x11A3A, 0x11A3A), (0x11A84, 0x11A89), (0x11D46, 0x11D46), (0x11F02, 0x11F02)]

/-- Letters that belong to the one before them like spacing marks. -/
def moreSpacing : List (Nat × Nat) :=
  [(0xE33, 0xE33), (0xEB3, 0xEB3)]

/-- Spacing marks that do not belong to the letter before them. -/
def lessSpacing : List (Nat × Nat) :=
  [(0x102B, 0x102C), (0x1038, 0x1038), (0x1062, 0x1064), (0x1067, 0x106D), (0x1083, 0x1083),
   (0x1087, 0x108C), (0x108F, 0x108F), (0x109A, 0x109C), (0x1A61, 0x1A61), (0x1A63, 0x1A64),
   (0xAA7B, 0xAA7B), (0xAA7D, 0xAA7D), (0x11720, 0x11721)]

/-- Letters of Katakana. -/
def katakana : List (Nat × Nat) :=
  [(0x3031, 0x3035), (0x309B, 0x309C), (0x30A0, 0x30FA), (0x30FC, 0x30FF), (0x31F0, 0x31FF),
   (0x32D0, 0x32FE), (0x3300, 0x3357), (0xFF66, 0xFF9D), (0x1AFF0, 0x1AFF3), (0x1AFF5, 0x1AFFB),
   (0x1AFFD, 0x1AFFE), (0x1B000, 0x1B000), (0x1B120, 0x1B122), (0x1B155, 0x1B155),
   (0x1B164, 0x1B167)]

/-- Letters of Hebrew. -/
def hebrewLetter : List (Nat × Nat) :=
  [(0x5D0, 0x5EA), (0x5EF, 0x5F2), (0xFB1D, 0xFB1D), (0xFB1F, 0xFB28), (0xFB2A, 0xFB36),
   (0xFB38, 0xFB3C), (0xFB3E, 0xFB3E), (0xFB40, 0xFB41), (0xFB43, 0xFB44), (0xFB46, 0xFB4F)]

/-- Characters that count as letters of words without being alphabetic. -/
def moreWordLetters : List (Nat × Nat) :=
  [(0xB8, 0xB8), (0x2C2, 0x2C5), (0x2D2, 0x2D7), (0x2DE, 0x2DF), (0x2E5, 0x2EB), (0x2ED, 0x2ED),
   (0x2EF, 0x2FF), (0x55A, 0x55C), (0x55E, 0x55E), (0x58A, 0x58A), (0x5F3, 0x5F3), (0x70F, 0x70F),
   (0xA708, 0xA716), (0xA720, 0xA721), (0xA789, 0xA78A), (0xAB5B, 0xAB5B)]

/-- Letters of the scripts whose words are not divided by blanks. -/
def lessWordLetters : List (Nat × Nat) :=
  [(0xE01, 0xE30), (0xE32, 0xE33), (0xE40, 0xE46), (0xE81, 0xE82), (0xE84, 0xE84), (0xE86, 0xE8A),
   (0xE8C, 0xEA3), (0xEA5, 0xEA5), (0xEA7, 0xEB0), (0xEB2, 0xEB3), (0xEBD, 0xEBD), (0xEC0, 0xEC4),
   (0xEC6, 0xEC6), (0xEDC, 0xEDF), (0x1000, 0x102A), (0x103F, 0x103F), (0x1050, 0x1055),
   (0x105A, 0x105D), (0x1061, 0x1061), (0x1065, 0x1066), (0x106E, 0x1070), (0x1075, 0x1081),
   (0x108E, 0x108E), (0x1780, 0x17B3), (0x17D7, 0x17D7), (0x17DC, 0x17DC), (0x1950, 0x196D),
   (0x1970, 0x1974), (0x1980, 0x19AB), (0x19B0, 0x19C9), (0x1A20, 0x1A54), (0x1AA7, 0x1AA7),
   (0x3041, 0x3096), (0x309D, 0x309F), (0xA9E0, 0xA9E4), (0xA9E6, 0xA9EF), (0xA9FA, 0xA9FE),
   (0xAA60, 0xAA76), (0xAA7A, 0xAA7A), (0xAA7E, 0xAAAF), (0xAAB1, 0xAAB1), (0xAAB5, 0xAAB6),
   (0xAAB9, 0xAABD), (0xAAC0, 0xAAC0), (0xAAC2, 0xAAC2), (0xAADB, 0xAADD), (0x11700, 0x1171A),
   (0x11740, 0x11746), (0x1B001, 0x1B11F), (0x1B132, 0x1B132), (0x1B150, 0x1B152)]

/-- Marks at which a sentence goes on. -/
def sentencePause : List (Nat × Nat) :=
  [(0x2C, 0x2D), (0x3A, 0x3B), (0x37E, 0x37E), (0x55D, 0x55D), (0x60C, 0x60D), (0x7F8, 0x7F8),
   (0x1802, 0x1802), (0x1808, 0x1808), (0x2013, 0x2014), (0x3001, 0x3001), (0xFE10, 0xFE11),
   (0xFE13, 0xFE14), (0xFE31, 0xFE32), (0xFE50, 0xFE51), (0xFE54, 0xFE55), (0xFE58, 0xFE58),
   (0xFE63, 0xFE63), (0xFF0C, 0xFF0D), (0xFF1A, 0xFF1B), (0xFF64, 0xFF64)]

/-- Quotation marks that are no brackets. -/
def moreClosing : List (Nat × Nat) :=
  [(0x22, 0x22), (0x27, 0x27), (0x275B, 0x2760), (0x2E00, 0x2E01), (0x2E06, 0x2E08),
   (0x2E0B, 0x2E0B), (0x1F676, 0x1F678)]

/-- Letters of Georgian, whose two forms are no cases. -/
def georgianLetter : List (Nat × Nat) :=
  [(0x10D0, 0x10FA), (0x10FD, 0x10FF), (0x1C90, 0x1CBA), (0x1CBD, 0x1CBF)]

/-- Syllables of Hangul without a final consonant. Behind each one are 27 with one. -/
def openSyllable : List (Nat × Nat) :=
  (List.range 399).map fun i => (0xAC00 + 28 * i, 0xAC00 + 28 * i)

/-- Syllables of Hangul with a final consonant. -/
def closedSyllable : List (Nat × Nat) :=
  (List.range 399).map fun i => (0xAC01 + 28 * i, 0xAC1B + 28 * i)

/-- The joiner of width zero. -/
def joiner : List (Nat × Nat) := [(0x200D, 0x200D)]

/-- The carriage return. -/
def carriageReturn : List (Nat × Nat) := [(0xD, 0xD)]

/-- The line feed. -/
def lineFeed : List (Nat × Nat) := [(0xA, 0xA)]

/-- The signs at which a sentence may end, but need not. -/
def sentenceDot : List (Nat × Nat) :=
  [(0x2E, 0x2E), (0x2024, 0x2024), (0xFE52, 0xFE52), (0xFF0E, 0xFF0E)]

/-- Other ends of lines and paragraphs. -/
def otherBreak : List (Nat × Nat) := [(0x85, 0x85), (0x2028, 0x2029)]

/-- Marks that stand before the digits they cover and count as digits themselves. -/
def prependedNumber : List (Nat × Nat) :=
  [(0x600, 0x605), (0x6DD, 0x6DD), (0x890, 0x891), (0x8E2, 0x8E2), (0x110BD, 0x110BD),
   (0x110CD, 0x110CD)]

/-! ### Signs -/

/-- The parts in the division into signs. -/
def signBreaks : List Property :=
  [⟨["control", "cn"], [lineSeparator, paragraphSeparator, control, format, ignorable],
    [nonspacingMark, otherLetter, moreExtending, carriageReturn, lineFeed, joiner,
     prependedMark]⟩,
   ⟨["cr"], [carriageReturn], []⟩,
   ⟨["extend", "ex"], emojiModifier :: extending, []⟩,
   ⟨["l"], [[(0x1100, 0x115F), (0xA960, 0xA97C)]], []⟩,
   ⟨["lf"], [lineFeed], []⟩,
   ⟨["lv"], [openSyllable], []⟩,
   ⟨["lvt"], [closedSyllable], []⟩,
   ⟨["prepend", "pp"], [prependedMark, prependedLetter], []⟩,
   ⟨["regionalindicator", "ri"], [regionalIndicator], []⟩,
   ⟨["spacingmark", "sm"], [spacingMark, moreSpacing], lessSpacing :: extending⟩,
   ⟨["t"], [[(0x11A8, 0x11FF), (0xD7CB, 0xD7FB)]], []⟩,
   ⟨["v"], [[(0x1160, 0x11A7), (0xD7B0, 0xD7C6), (0x16D63, 0x16D63), (0x16D67, 0x16D6A)]], []⟩,
   ⟨["zwj"], [joiner], []⟩]

/-! ### Words -/

/-- The parts in the division into words. -/
def wordBreaks : List Property :=
  [⟨["aletter", "le"], moreWordLetters :: alphabetic,
    ideographic :: katakana :: hebrewLetter :: lessWordLetters :: spacingMark :: extending⟩,
   ⟨["cr"], [carriageReturn], []⟩,
   ⟨["doublequote", "dq"], [[(0x22, 0x22)]], []⟩,
   ⟨["extend"], spacingMark :: emojiModifier :: extending, []⟩,
   ⟨["extendnumlet", "ex"], [connectorPunctuation, [(0x202F, 0x202F)]], []⟩,
   ⟨["format", "fo"], [format],
    [prependedNumber, moreExtending, joiner, [(0x70F, 0x70F), (0x200B, 0x200B)]]⟩,
   ⟨["hebrewletter", "hl"], [hebrewLetter], []⟩,
   ⟨["katakana", "ka"], [katakana], []⟩,
   ⟨["lf"], [lineFeed], []⟩,
   ⟨["midletter", "ml"],
    [[(0x3A, 0x3A), (0xB7, 0xB7), (0x387, 0x387), (0x55F, 0x55F), (0x5F4, 0x5F4),
      (0x2027, 0x2027), (0xFE13, 0xFE13), (0xFE55, 0xFE55), (0xFF1A, 0xFF1A)]],
    []⟩,
   ⟨["midnum", "mn"],
    [[(0x2C, 0x2C), (0x3B, 0x3B), (0x37E, 0x37E), (0x589, 0x589), (0x60C, 0x60D),
      (0x66C, 0x66C), (0x7F8, 0x7F8), (0x2044, 0x2044), (0xFE10, 0xFE10), (0xFE14, 0xFE14),
      (0xFE50, 0xFE50), (0xFE54, 0xFE54), (0xFF0C, 0xFF0C), (0xFF1B, 0xFF1B)]],
    []⟩,
   ⟨["midnumlet", "mb"], [sentenceDot, [(0x2018, 0x2019), (0xFF07, 0xFF07)]], []⟩,
   ⟨["newline", "nl"], [[(0xB, 0xC)], otherBreak], []⟩,
   ⟨["numeric", "nu"], [decimalNumber, prependedNumber, [(0x66B, 0x66B), (0x19DA, 0x19DA)]], []⟩,
   ⟨["regionalindicator", "ri"], [regionalIndicator], []⟩,
   ⟨["singlequote", "sq"], [[(0x27, 0x27)]], []⟩,
   ⟨["wsegspace"], [spaceSeparator],
    [[(0xA0, 0xA0), (0x2007, 0x2007), (0x202F, 0x202F)]]⟩,
   ⟨["zwj"], [joiner], []⟩]

/-! ### Sentences -/

/-- The parts in the division into sentences. -/
def sentenceBreaks : List Property :=
  [⟨["aterm", "at"], [sentenceDot], []⟩,
   ⟨["close", "cl"],
    [openPunctuation, closePunctuation, initialPunctuation, finalPunctuation, moreClosing], []⟩,
   ⟨["cr"], [carriageReturn], []⟩,
   ⟨["extend", "ex"], spacingMark :: joiner :: extending, []⟩,
   ⟨["format", "fo"], [format], [prependedNumber, moreExtending, joiner]⟩,
   ⟨["lf"], [lineFeed], []⟩,
   ⟨["lower", "lo"], lowercase, georgianLetter :: extending⟩,
   ⟨["numeric", "nu"], [decimalNumber, prependedNumber, [(0x66B, 0x66C), (0x19DA, 0x19DA)]], []⟩,
   ⟨["oletter", "le"],
    [modifierLetter, otherLetter, letterNumber, moreAlphabetic, georgianLetter, [(0x5F3, 0x5F3)]],
    moreLowercase :: moreUppercase :: spacingMark :: extending⟩,
   ⟨["scontinue", "sc"], [sentencePause], []⟩,
   ⟨["sep", "se"], [otherBreak], []⟩,
   ⟨["sp"], [whiteSpace], [carriageReturn, lineFeed, otherBreak]⟩,
   ⟨["sterm", "st"], [sentenceTerminal], [sentenceDot]⟩,
   ⟨["upper", "up"], titlecaseLetter :: uppercase, [georgianLetter]⟩]

end Screencast.Text.Property

import Screencast.Text.Property.Break
import Screencast.Text.Script
import Screencast.Text.Version

/-!
The properties of which a character has one value: its category, its script, the version of Unicode
that added it, and its part in the division of texts. The characters with a value are a property
again.
-/

namespace Screencast.Text.Property

open Category

/-! ### Categories -/

/-- The categories, alone and in groups. Surrogates are no characters, so that their category has
no members. -/
def categories : List Property :=
  [⟨["any"], [everything], []⟩,
   ⟨["ascii"], [[(0x0, 0x7F)]], []⟩,
   ⟨["assigned"], [everything], [unassigned]⟩,
   ⟨["other", "c"], [control, format, privateUse, unassigned], []⟩,
   ⟨["control", "cc", "cntrl"], [control], []⟩,
   ⟨["format", "cf"], [format], []⟩,
   ⟨["unassigned", "cn"], [unassigned], []⟩,
   ⟨["privateuse", "co"], [privateUse], []⟩,
   ⟨["surrogate", "cs"], [], []⟩,
   ⟨["letter", "l"], letters, []⟩,
   ⟨["casedletter", "lc"], [uppercaseLetter, lowercaseLetter, titlecaseLetter], []⟩,
   ⟨["lowercaseletter", "ll"], [lowercaseLetter], []⟩,
   ⟨["modifierletter", "lm"], [modifierLetter], []⟩,
   ⟨["otherletter", "lo"], [otherLetter], []⟩,
   ⟨["titlecaseletter", "lt"], [titlecaseLetter], []⟩,
   ⟨["uppercaseletter", "lu"], [uppercaseLetter], []⟩,
   ⟨["mark", "m", "combiningmark"], marks, []⟩,
   ⟨["spacingmark", "mc"], [spacingMark], []⟩,
   ⟨["enclosingmark", "me"], [enclosingMark], []⟩,
   ⟨["nonspacingmark", "mn"], [nonspacingMark], []⟩,
   ⟨["number", "n"], [decimalNumber, letterNumber, otherNumber], []⟩,
   ⟨["decimalnumber", "nd", "digit"], [decimalNumber], []⟩,
   ⟨["letternumber", "nl"], [letterNumber], []⟩,
   ⟨["othernumber", "no"], [otherNumber], []⟩,
   ⟨["punctuation", "p", "punct"],
    [connectorPunctuation, dashPunctuation, openPunctuation, closePunctuation,
     initialPunctuation, finalPunctuation, otherPunctuation],
    []⟩,
   ⟨["connectorpunctuation", "pc"], [connectorPunctuation], []⟩,
   ⟨["dashpunctuation", "pd"], [dashPunctuation], []⟩,
   ⟨["closepunctuation", "pe"], [closePunctuation], []⟩,
   ⟨["finalpunctuation", "pf"], [finalPunctuation], []⟩,
   ⟨["initialpunctuation", "pi"], [initialPunctuation], []⟩,
   ⟨["otherpunctuation", "po"], [otherPunctuation], []⟩,
   ⟨["openpunctuation", "ps"], [openPunctuation], []⟩,
   ⟨["symbol", "s"], [mathSymbol, currencySymbol, modifierSymbol, otherSymbol], []⟩,
   ⟨["currencysymbol", "sc"], [currencySymbol], []⟩,
   ⟨["modifiersymbol", "sk"], [modifierSymbol], []⟩,
   ⟨["mathsymbol", "sm"], [mathSymbol], []⟩,
   ⟨["othersymbol", "so"], [otherSymbol], []⟩,
   ⟨["separator", "z"], [spaceSeparator, lineSeparator, paragraphSeparator], []⟩,
   ⟨["lineseparator", "zl"], [lineSeparator], []⟩,
   ⟨["paragraphseparator", "zp"], [paragraphSeparator], []⟩,
   ⟨["spaceseparator", "zs"], [spaceSeparator], []⟩]

/-! ### Scripts -/

/-- The characters of a script. -/
def ofScript (script : Script) : Property := ⟨script.names, [script.own], []⟩

/-- The characters that are used in a script. A character that is common to all scripts, or takes
the script of the one before it, counts for the scripts that share it and not as common. -/
def ofScriptExtended (script : Script) : Property :=
  ⟨script.names, [script.own, script.shared],
    if ["common", "inherited"].any script.names.contains then Script.all.map (·.shared) else []⟩

/-! ### Versions -/

/-- The code points that versions and all earlier ones added, where some are known before. -/
def versionsFrom (earlier : List (List (Nat × Nat))) : List Version → List Property
  | [] => []
  | version :: versions =>
    let added := version.added :: earlier
    ⟨version.names, added, []⟩ :: versionsFrom added versions

/-! ### All properties with values -/

/-- A property with values: its names, and for each value the characters that have it. -/
structure Valued where
  names : List String
  values : List Property

/-- The properties with values that can be asked for. -/
def valued : List Valued :=
  [⟨["generalcategory", "gc"], categories⟩,
   ⟨["script", "sc"], Script.all.map ofScript⟩,
   ⟨["scriptextensions", "scx"], Script.all.map ofScriptExtended⟩,
   ⟨["age"], versionsFrom [] Version.all⟩,
   ⟨["graphemeclusterbreak", "gcb"], signBreaks⟩,
   ⟨["wordbreak", "wb"], wordBreaks⟩,
   ⟨["sentencebreak", "sb"], sentenceBreaks⟩]

end Screencast.Text.Property

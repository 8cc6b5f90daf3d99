import Screencast.Text.Property.Value

/-!
Looking up properties of characters by name. Names count without their case, their blanks, hyphens
and underscores, and without "is" in front.
-/

namespace Screencast.Text.Property

/-- The names of further properties, which no character is looked up by. -/
def furtherNames : List String :=
  ["numericvalue", "nv", "cjkaccountingnumeric", "kaccountingnumeric", "cjkothernumeric",
   "kothernumeric", "cjkprimarynumeric", "kprimarynumeric", "bidimirroringglyph", "bmg",
   "bidipairedbracket", "bpb", "casefolding", "cf", "cjkcompatibilityvariant",
   "kcompatibilityvariant", "decompositionmapping", "dm", "equivalentunifiedideograph", "equideo",
   "fcnfkcclosure", "fcnfkc", "lowercasemapping", "lc", "nfkccasefold", "nfkccf",
   "nfkcsimplecasefold", "nfkcscf", "simplecasefolding", "scf", "sfc", "simplelowercasemapping",
   "slc", "simpletitlecasemapping", "stc", "simpleuppercasemapping", "suc", "titlecasemapping",
   "tc", "uppercasemapping", "uc", "cjkiicore", "kiicore", "cjkirggsource", "kirggsource",
   "cjkirghsource", "kirghsource", "cjkirgjsource", "kirgjsource", "cjkirgkpsource",
   "kirgkpsource", "cjkirgksource", "kirgksource", "cjkirgmsource", "kirgmsource",
   "cjkirgssource", "kirgssource", "cjkirgtsource", "kirgtsource", "cjkirguksource",
   "kirguksource", "cjkirgusource", "kirgusource", "cjkirgvsource", "kirgvsource", "cjkrsunicode",
   "krsunicode", "unicoderadicalstroke", "urs", "kehcat", "kehcore", "kehdesc", "kehfunc",
   "kehfval", "kehhg", "kehifao", "kehjsesh", "kehnomirror", "kehnorotate", "kehunik",
   "isocomment", "isc", "jamoshortname", "jsn", "name", "na", "unicode1name", "na1", "namealias",
   "block", "blk", "bidiclass", "bc", "bidipairedbrackettype", "bpt", "canonicalcombiningclass",
   "ccc", "decompositiontype", "dt", "eastasianwidth", "ea", "hangulsyllabletype", "hst",
   "indicconjunctbreak", "incb", "indicpositionalcategory", "inpc", "indicsyllabiccategory",
   "insc", "joininggroup", "jg", "joiningtype", "jt", "linebreak", "lb", "nfcquickcheck", "nfcqc",
   "nfdquickcheck", "nfdqc", "nfkcquickcheck", "nfkcqc", "nfkdquickcheck", "nfkdqc",
   "numerictype", "nt", "verticalorientation", "vo", "compositionexclusion", "ce",
   "fullcompositionexclusion", "compex", "changeswhennfkccasefolded", "cwkcf", "expandsonnfc",
   "xonfc", "expandsonnfd", "xonfd", "expandsonnfkc", "xonfkc", "expandsonnfkd", "xonfkd"]

/-- Why a name stands for no characters. -/
inductive NameError where
  | unknownProperty
  | unknownValue
deriving DecidableEq, Repr

/-- A name as it is compared with others. A lone "c" behind "is" is the name of another
property. -/
def compared (name : String) : String :=
  let cs := name.toList
  let hasIs := (cs.take 2).map Char.toLower = ['i', 's']
  let kept := (if hasIs then cs.drop 2 else cs).filter fun c =>
    c.toNat < 0x80 && c ≠ ' ' && c ≠ '_' && c ≠ '-'
  let name := String.ofList (kept.map Char.toLower)
  if hasIs && name = "c" then "isc" else name

/-- The property with a name among some. -/
def withName? (properties : List Property) (name : String) : Option Property :=
  properties.find? (·.names.contains name)

/-- The characters of a value; a value without characters counts as unknown. -/
def valueChars : Option Property → Except NameError CharSet
  | some ⟨_, [], _⟩ | some ⟨_, [[]], _⟩ | some ⟨_, [[], []], _⟩ | none => .error .unknownValue
  | some property => .ok property.chars

/-- The characters with a property or a value of that name: a property, a category, or a
script. -/
def lookUp (name : String) : Except NameError CharSet :=
  let name := compared name
  match withName? all name with
  | some property => .ok property.chars
  | none =>
    match withName? categories name with
    | some category => valueChars (some category)
    | none =>
      match withName? (Script.all.map ofScript) name with
      | some script => valueChars (some script)
      | none => .error .unknownProperty

/-- The characters for which a property has a value. -/
def lookUpValue (name value : String) : Except NameError CharSet :=
  let name := compared name
  match valued.find? (·.names.contains name) with
  | some property => valueChars (withName? property.values (compared value))
  | none =>
    if (withName? all name).isSome || furtherNames.contains name then .error .unknownValue
    else .error .unknownProperty

end Screencast.Text.Property

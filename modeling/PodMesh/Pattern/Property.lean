import PodMesh.Text.Age
import PodMesh.Text.Break
import PodMesh.Text.Script.Shared

/-!
# Named sets of characters

The sets that patterns call by names: properties of characters, and the values of
properties. Names are loose: case, blanks, dashes and underscores do not count, nor does
`is` in front. Patterns know the characters of version 16.0 of Unicode; later ones are
unassigned for them.
-/

namespace PodMesh.Pattern

open Text (CharSet Category Script)
open Text.Category (charsOf)

/-- The characters that patterns do not know yet. -/
def later : CharSet := Text.newIn "17.0"

/-- What patterns know of a set. -/
def known (set : CharSet) : CharSet := set.diff later

/-! ## Names -/

/-- A name as it is looked up. What is left of `isc` after its first two letters would be another
name, so it stays whole. -/
def loose (name : List Char) : List Char :=
  let plain (cs : List Char) : List Char :=
    (cs.filter fun c => c.toNat < 0x80 && c ∉ [' ', '_', '-']).map Char.toLower
  match name with
  | i :: s :: rest =>
    if i.toLower = 'i' && s.toLower = 's' then
      if plain rest = ['c'] then ['i', 's', 'c'] else plain rest
    else plain name
  | _ => plain name

/-- Does a looked-up name stand for a written one? -/
def isName (name : List Char) (written : String) : Bool := name = loose written.toList

/-! ## General categories -/

/-- The groups of general categories, each by its names. -/
def categoryGroups : List (List String × List Category) :=
  [(["C", "Other"], [.cc, .cf, .cs, .co, .cn]), (["Cc", "Control", "cntrl"], [.cc]),
    (["Cf", "Format"], [.cf]), (["Cn", "Unassigned"], [.cn]), (["Co", "Private_Use"], [.co]),
    (["L", "Letter"], [.lu, .ll, .lt, .lm, .lo]), (["LC", "Cased_Letter"], [.lu, .ll, .lt]),
    (["Ll", "Lowercase_Letter"], [.ll]), (["Lm", "Modifier_Letter"], [.lm]),
    (["Lo", "Other_Letter"], [.lo]), (["Lt", "Titlecase_Letter"], [.lt]),
    (["Lu", "Uppercase_Letter"], [.lu]), (["M", "Mark", "Combining_Mark"], [.mn, .mc, .me]),
    (["Mc", "Spacing_Mark"], [.mc]), (["Me", "Enclosing_Mark"], [.me]),
    (["Mn", "Nonspacing_Mark"], [.mn]), (["N", "Number"], [.nd, .nl, .no]),
    (["Nd", "Decimal_Number", "digit"], [.nd]), (["Nl", "Letter_Number"], [.nl]),
    (["No", "Other_Number"], [.no]),
    (["P", "Punctuation", "punct"], [.pc, .pd, .ps, .pe, .pi, .pf, .po]),
    (["Pc", "Connector_Punctuation"], [.pc]), (["Pd", "Dash_Punctuation"], [.pd]),
    (["Pe", "Close_Punctuation"], [.pe]), (["Pf", "Final_Punctuation"], [.pf]),
    (["Pi", "Initial_Punctuation"], [.pi]), (["Po", "Other_Punctuation"], [.po]),
    (["Ps", "Open_Punctuation"], [.ps]), (["S", "Symbol"], [.sm, .sc, .sk, .so]),
    (["Sc", "Currency_Symbol"], [.sc]), (["Sk", "Modifier_Symbol"], [.sk]),
    (["Sm", "Math_Symbol"], [.sm]), (["So", "Other_Symbol"], [.so]),
    (["Z", "Separator"], [.zs, .zl, .zp]), (["Zl", "Line_Separator"], [.zl]),
    (["Zp", "Paragraph_Separator"], [.zp]), (["Zs", "Space_Separator"], [.zs])]

/-- The set of a group of categories. Later characters are unassigned. -/
def ofCategories (categories : List Category) : CharSet :=
  if .cn ∈ categories then .union (charsOf categories) later else known (charsOf categories)

/-- The set that a looked-up name of a category stands for. -/
def category? (name : List Char) : Option CharSet :=
  if isName name "Any" then some .all
  else if isName name "ASCII" then some (.range 0 0x7f)
  else if isName name "Assigned" then some (ofCategories [.cn]).complement
  else
    (categoryGroups.find? fun (names, _) => names.any (isName name)).map fun (_, categories) =>
      ofCategories categories

/-! ## Scripts -/

/-- Names that two scripts have besides. -/
def oldCodes : List (String × String) := [("Qaac", "Coptic"), ("Qaai", "Inherited")]

/-- The script that a looked-up name stands for. -/
def script? (name : List Char) : Option Script :=
  let old := (oldCodes.find? fun (code, _) => isName name code).map (·.2)
  Script.all.find? fun s => isName name s.name || isName name s.code || old = some s.name

/-! ## Properties that hold or not -/

/-- The set of the characters that have a property, by its names. -/
def properties : List (List String × (Unit → CharSet)) :=
  [(["Alphabetic", "Alpha"], fun _ => Text.Property.alphabetic),
    (["ASCII_Hex_Digit", "AHex"], fun _ => Text.Property.asciiHexDigit),
    (["Bidi_Control", "Bidi_C"], fun _ => Text.Property.bidiControl),
    (["Cased"], fun _ => Text.Property.cased),
    (["Case_Ignorable", "CI"], fun _ => Text.Property.caseIgnorable),
    (["Changes_When_Casefolded", "CWCF"], fun _ => Text.Property.changesWhenFolded),
    (["Changes_When_Casemapped", "CWCM"], fun _ => Text.Property.changesWhenMapped),
    (["Changes_When_Lowercased", "CWL"], fun _ => Text.Property.changesWhenLowercased),
    (["Changes_When_Titlecased", "CWT"], fun _ => Text.Property.changesWhenTitlecased),
    (["Changes_When_Uppercased", "CWU"], fun _ => Text.Property.changesWhenUppercased),
    (["Dash"], fun _ => Text.Property.dash),
    (["Default_Ignorable_Code_Point", "DI"], fun _ => Text.Property.defaultIgnorable),
    (["Deprecated", "Dep"], fun _ => Text.Property.deprecated),
    (["Diacritic", "Dia"], fun _ => Text.Property.diacritic),
    (["Emoji"], fun _ => Text.Property.emoji),
    (["Emoji_Component", "EComp"], fun _ => Text.Property.emojiComponent),
    (["Emoji_Modifier", "EMod"], fun _ => Text.Property.emojiModifier),
    (["Emoji_Modifier_Base", "EBase"], fun _ => Text.Property.emojiModifierBase),
    (["Emoji_Presentation", "EPres"], fun _ => Text.Property.emojiPresentation),
    (["Extended_Pictographic", "ExtPict"], fun _ => Text.Property.extendedPictographic),
    (["Extender", "Ext"], fun _ => Text.Property.extender),
    (["Grapheme_Base", "Gr_Base"], fun _ => Text.Property.graphemeBase),
    (["Grapheme_Extend", "Gr_Ext"], fun _ => Text.Property.graphemeExtend),
    (["Grapheme_Link", "Gr_Link"], fun _ => Text.Property.graphemeLink),
    (["Hex_Digit", "Hex"], fun _ => Text.Property.hexDigit),
    (["Hyphen"], fun _ => Text.Property.hyphen),
    (["ID_Compat_Math_Continue"], fun _ => Text.Property.idCompatMathContinue),
    (["ID_Compat_Math_Start"], fun _ => Text.Property.idCompatMathStart),
    (["ID_Continue", "IDC"], fun _ => Text.Property.idContinue),
    (["ID_Start", "IDS"], fun _ => Text.Property.idStart),
    (["Ideographic", "Ideo"], fun _ => Text.Property.ideographic),
    (["IDS_Binary_Operator", "IDSB"], fun _ => Text.Property.idsBinaryOperator),
    (["IDS_Trinary_Operator", "IDST"], fun _ => Text.Property.idsTrinaryOperator),
    (["IDS_Unary_Operator", "IDSU"], fun _ => Text.Property.idsUnaryOperator),
    (["Join_Control", "Join_C"], fun _ => Text.Property.joinControl),
    (["Logical_Order_Exception", "LOE"], fun _ => Text.Property.logicalOrderException),
    (["Lowercase", "Lower"], fun _ => Text.Property.lowercase),
    (["Math"], fun _ => Text.Property.math),
    (["Modifier_Combining_Mark", "MCM"], fun _ => Text.Property.modifierCombiningMark),
    (["Noncharacter_Code_Point", "NChar"], fun _ => Text.Property.noncharacter),
    (["Other_Alphabetic", "OAlpha"], fun _ => Text.Property.otherAlphabetic),
    (["Other_Default_Ignorable_Code_Point", "ODI"], fun _ => Text.Property.otherDefaultIgnorable),
    (["Other_Grapheme_Extend", "OGr_Ext"], fun _ => Text.Property.otherGraphemeExtend),
    (["Other_ID_Continue", "OIDC"], fun _ => Text.Property.otherIdContinue),
    (["Other_ID_Start", "OIDS"], fun _ => Text.Property.otherIdStart),
    (["Other_Lowercase", "OLower"], fun _ => Text.Property.otherLowercase),
    (["Other_Math", "OMath"], fun _ => Text.Property.otherMath),
    (["Other_Uppercase", "OUpper"], fun _ => Text.Property.otherUppercase),
    (["Pattern_Syntax", "Pat_Syn"], fun _ => Text.Property.patternSyntax),
    (["Pattern_White_Space", "Pat_WS"], fun _ => Text.Property.patternWhiteSpace),
    (["Prepended_Concatenation_Mark", "PCM"], fun _ => Text.Property.prependedConcatenationMark),
    (["Quotation_Mark", "QMark"], fun _ => Text.Property.quotationMark),
    (["Radical"], fun _ => Text.Property.radical),
    (["Regional_Indicator", "RI"], fun _ => Text.Property.regionalIndicator),
    (["Sentence_Terminal", "STerm"], fun _ => Text.Property.sentenceTerminal),
    (["Soft_Dotted", "SD"], fun _ => Text.Property.softDotted),
    (["Terminal_Punctuation", "Term"], fun _ => Text.Property.terminalPunctuation),
    (["Unified_Ideograph", "UIdeo"], fun _ => Text.Property.unifiedIdeograph),
    (["Uppercase", "Upper"], fun _ => Text.Property.uppercase),
    (["Variation_Selector", "VS"], fun _ => Text.Property.variationSelector),
    (["White_Space", "WSpace", "space"], fun _ => Text.Property.whiteSpace),
    (["XID_Continue", "XIDC"], fun _ => Text.Property.xidContinue),
    (["XID_Start", "XIDS"], fun _ => Text.Property.xidStart)]

/-- The set that a name stands for: that of a property, of a category or of a script. -/
def named? (name : List Char) : Option CharSet :=
  let name := loose name
  match properties.find? fun (names, _) => names.any (isName name) with
  | some (_, chars) => some (known (chars ()))
  | none => (category? name).or ((script? name).map Script.chars)

/-! ## Properties with values -/

/-- The class of a looked-up name. -/
def class? (classes : List (List String × CharSet)) (name : List Char) : Option CharSet :=
  (classes.find? fun (names, _) => names.any (isName name)).map fun (_, chars) => known chars

/-- The characters up to a version by its number, or by its name: `V`, the numbers. -/
def age? (value : List Char) : Option CharSet :=
  let version := Text.ages.find? fun (version, _) =>
    isName value version || isName value ("V" ++ version.replace "." "_")
  match version with
  | some (version, _) => if version = "17.0" then none else Text.upTo? version
  | none => none

/-- The set of the characters that have a value of a property. -/
def valued? (property value : List Char) : Option CharSet :=
  let property := loose property
  let value := loose value
  let isOne (names : List String) : Bool := names.any (isName property)
  if isOne ["General_Category", "gc"] then category? value
  else if isOne ["Script", "sc"] then (script? value).map Script.chars
  else if isOne ["Script_Extensions", "scx"] then (script? value).map Script.users
  else if isOne ["Age"] then age? value
  else if isOne ["Grapheme_Cluster_Break", "GCB"] then class? Text.Break.units value
  else if isOne ["Word_Break", "WB"] then class? Text.Break.words value
  else if isOne ["Sentence_Break", "SB"] then class? Text.Break.sentences value
  else none

/-! ## Sets that escapes stand for -/

/-- Letters, marks, digits and connectors of any script. -/
def word : CharSet :=
  known (.unions [Text.Property.alphabetic, charsOf [.mn, .mc, .me, .nd, .pc],
    Text.Property.joinControl])

/-- Decimal digits of any script. -/
def anyDigit : CharSet := ofCategories [.nd]

/-- Blanks of any script. -/
def blank : CharSet := Text.Property.whiteSpace

def asciiDigit : CharSet := .between '0' '9'

/-- Letters, digits and the underscore, of ASCII only. -/
def asciiWord : CharSet := .ofTable "30-39 41-5A 5F 61-7A"

/-- Blanks of ASCII. -/
def asciiBlank : CharSet := .ofTable "9-D 20"

/-- The sets of ASCII that have names between colons. -/
def asciiSets : List (String × String) :=
  [("alnum", "30-39 41-5A 61-7A"), ("alpha", "41-5A 61-7A"), ("ascii", "0-7F"), ("blank", "9 20"),
    ("cntrl", "0-1F 7F"), ("digit", "30-39"), ("graph", "21-7E"), ("lower", "61-7A"),
    ("print", "20-7E"), ("punct", "21-2F 3A-40 5B-60 7B-7E"), ("space", "9-D 20"),
    ("upper", "41-5A"), ("word", "30-39 41-5A 5F 61-7A"), ("xdigit", "30-39 41-46 61-66")]

/-- The set of ASCII of a name. -/
def asciiSet? (name : List Char) : Option CharSet :=
  (asciiSets.lookup (String.ofList name)).map .ofTable

end PodMesh.Pattern

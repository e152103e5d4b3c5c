/-
This file holds the yes-or-no properties of Unicode. Some are tables; the others are
put together from the general categories and such tables in the way in which the
standard defines them.
-/

import ErrorLint.Unicode.Category
import ErrorLint.Unicode.PropertyTable

namespace ErrorLint.Unicode

def lowercase : CharSet := (category "Ll").union (tabled "Other_Lowercase")

def uppercase : CharSet := (category "Lu").union (tabled "Other_Uppercase")

def cased : CharSet := .unions [lowercase, uppercase, category "Lt"]

def alphabetic : CharSet :=
  .unions [cased, categories ["Lm", "Lo", "Nl"], tabled "Other_Alphabetic"]

def math : CharSet := (category "Sm").union (tabled "Other_Math")

def graphemeExtend : CharSet :=
  (categories ["Mn", "Me"]).union (tabled "Other_Grapheme_Extend")

def graphemeBase : CharSet :=
  ((categories ["Cc", "Cf", "Cs", "Co", "Cn", "Zl", "Zp"]).union graphemeExtend).complement

/-- The characters between the words of a text that a change of case passes over. -/
def midWord : CharSet := .ofLines
  ["27 2E 3A B7 387 55F 5F4 2018-2019 2024 2027 FE13 FE52 FE55 FF07 FF0E FF1A"]

def caseIgnorable : CharSet := (categories ["Mn", "Me", "Cf", "Lm", "Sk"]).union midWord

def changesWhenCasemapped : CharSet :=
  .unions [tabled "Changes_When_Lowercased", tabled "Changes_When_Titlecased",
    tabled "Changes_When_Uppercased"]

/-- The format characters that show. -/
def visibleFormats : CharSet :=
  (CharSet.ofLines ["FFF9-FFFB 13430-13440"]).union (tabled "Prepended_Concatenation_Mark")

def defaultIgnorable : CharSet :=
  (CharSet.unions [tabled "Other_Default_Ignorable_Code_Point", category "Cf",
    tabled "Variation_Selector"]).difference visibleFormats

/-! ### Identifiers -/

/-- The characters that identifiers leave to the syntax around them. -/
def patternCharacters : CharSet :=
  (tabled "Pattern_Syntax").union (tabled "Pattern_White_Space")

def idStart : CharSet :=
  ((categories ["Lu", "Ll", "Lt", "Lm", "Lo", "Nl"]).union (tabled "Other_ID_Start")).difference
    patternCharacters

def idContinue : CharSet :=
  (CharSet.unions [idStart, categories ["Mn", "Mc", "Nd", "Pc"],
    tabled "Other_ID_Continue"]).difference patternCharacters

/-- The starts of identifiers that normalization would change. -/
def unstableStarts : CharSet := .ofLines
  ["37A E33 EB3 309B-309C FC5E-FC63 FDFA-FDFB FE70 FE72 FE74 FE76 FE78 FE7A FE7C FE7E",
   "FF9E-FF9F"]

/-- The continuations of identifiers that normalization would change. -/
def unstableContinuations : CharSet := .ofLines
  ["37A 309B-309C FC5E-FC63 FDFA-FDFB FE70 FE72 FE74 FE76 FE78 FE7A FE7C FE7E"]

def xidStart : CharSet := idStart.difference unstableStarts

def xidContinue : CharSet := idContinue.difference unstableContinuations

/-! ### Names -/

/-- The properties. The first name of each is its long one. -/
def properties : List NamedSet := [
  ⟨["ASCII_Hex_Digit", "AHex"], tabled "ASCII_Hex_Digit"⟩,
  ⟨["Alphabetic", "Alpha"], alphabetic⟩,
  ⟨["Bidi_Control", "Bidi_C"], tabled "Bidi_Control"⟩,
  ⟨["Bidi_Mirrored", "Bidi_M"], tabled "Bidi_Mirrored"⟩,
  ⟨["Case_Ignorable", "CI"], caseIgnorable⟩,
  ⟨["Cased"], cased⟩,
  ⟨["Changes_When_Casefolded", "CWCF"], tabled "Changes_When_Casefolded"⟩,
  ⟨["Changes_When_Casemapped", "CWCM"], changesWhenCasemapped⟩,
  ⟨["Changes_When_Lowercased", "CWL"], tabled "Changes_When_Lowercased"⟩,
  ⟨["Changes_When_Titlecased", "CWT"], tabled "Changes_When_Titlecased"⟩,
  ⟨["Changes_When_Uppercased", "CWU"], tabled "Changes_When_Uppercased"⟩,
  ⟨["Dash"], tabled "Dash"⟩,
  ⟨["Default_Ignorable_Code_Point", "DI"], defaultIgnorable⟩,
  ⟨["Deprecated", "Dep"], tabled "Deprecated"⟩,
  ⟨["Diacritic", "Dia"], tabled "Diacritic"⟩,
  ⟨["Emoji"], tabled "Emoji"⟩,
  ⟨["Emoji_Component", "EComp"], tabled "Emoji_Component"⟩,
  ⟨["Emoji_Modifier", "EMod"], tabled "Emoji_Modifier"⟩,
  ⟨["Emoji_Modifier_Base", "EBase"], tabled "Emoji_Modifier_Base"⟩,
  ⟨["Emoji_Presentation", "EPres"], tabled "Emoji_Presentation"⟩,
  ⟨["Extended_Pictographic", "ExtPict"], tabled "Extended_Pictographic"⟩,
  ⟨["Extender", "Ext"], tabled "Extender"⟩,
  ⟨["Grapheme_Base", "Gr_Base"], graphemeBase⟩,
  ⟨["Grapheme_Extend", "Gr_Ext"], graphemeExtend⟩,
  ⟨["Grapheme_Link", "Gr_Link"], tabled "Grapheme_Link"⟩,
  ⟨["Hex_Digit", "Hex"], tabled "Hex_Digit"⟩,
  ⟨["Hyphen"], tabled "Hyphen"⟩,
  ⟨["IDS_Binary_Operator", "IDSB"], tabled "IDS_Binary_Operator"⟩,
  ⟨["IDS_Trinary_Operator", "IDST"], tabled "IDS_Trinary_Operator"⟩,
  ⟨["IDS_Unary_Operator", "IDSU"], tabled "IDS_Unary_Operator"⟩,
  ⟨["ID_Compat_Math_Continue"], tabled "ID_Compat_Math_Continue"⟩,
  ⟨["ID_Compat_Math_Start"], tabled "ID_Compat_Math_Start"⟩,
  ⟨["ID_Continue", "IDC"], idContinue⟩,
  ⟨["ID_Start", "IDS"], idStart⟩,
  ⟨["Ideographic", "Ideo"], tabled "Ideographic"⟩,
  ⟨["Join_Control", "Join_C"], tabled "Join_Control"⟩,
  ⟨["Logical_Order_Exception", "LOE"], tabled "Logical_Order_Exception"⟩,
  ⟨["Lowercase", "Lower"], lowercase⟩,
  ⟨["Math"], math⟩,
  ⟨["Modifier_Combining_Mark", "MCM"], tabled "Modifier_Combining_Mark"⟩,
  ⟨["Noncharacter_Code_Point", "NChar"], tabled "Noncharacter_Code_Point"⟩,
  ⟨["Other_Alphabetic", "OAlpha"], tabled "Other_Alphabetic"⟩,
  ⟨["Other_Default_Ignorable_Code_Point", "ODI"], tabled "Other_Default_Ignorable_Code_Point"⟩,
  ⟨["Other_Grapheme_Extend", "OGr_Ext"], tabled "Other_Grapheme_Extend"⟩,
  ⟨["Other_ID_Continue", "OIDC"], tabled "Other_ID_Continue"⟩,
  ⟨["Other_ID_Start", "OIDS"], tabled "Other_ID_Start"⟩,
  ⟨["Other_Lowercase", "OLower"], tabled "Other_Lowercase"⟩,
  ⟨["Other_Math", "OMath"], tabled "Other_Math"⟩,
  ⟨["Other_Uppercase", "OUpper"], tabled "Other_Uppercase"⟩,
  ⟨["Pattern_Syntax", "Pat_Syn"], tabled "Pattern_Syntax"⟩,
  ⟨["Pattern_White_Space", "Pat_WS"], tabled "Pattern_White_Space"⟩,
  ⟨["Prepended_Concatenation_Mark", "PCM"], tabled "Prepended_Concatenation_Mark"⟩,
  ⟨["Quotation_Mark", "QMark"], tabled "Quotation_Mark"⟩,
  ⟨["Radical"], tabled "Radical"⟩,
  ⟨["Regional_Indicator", "RI"], tabled "Regional_Indicator"⟩,
  ⟨["Sentence_Terminal", "STerm"], tabled "Sentence_Terminal"⟩,
  ⟨["Soft_Dotted", "SD"], tabled "Soft_Dotted"⟩,
  ⟨["Terminal_Punctuation", "Term"], tabled "Terminal_Punctuation"⟩,
  ⟨["Unified_Ideograph", "UIdeo"], tabled "Unified_Ideograph"⟩,
  ⟨["Uppercase", "Upper"], uppercase⟩,
  ⟨["Variation_Selector", "VS"], tabled "Variation_Selector"⟩,
  ⟨["White_Space", "WSpace", "space"], tabled "White_Space"⟩,
  ⟨["XID_Continue", "XIDC"], xidContinue⟩,
  ⟨["XID_Start", "XIDS"], xidStart⟩]

/-- The property of a normalized name. Three short names mean categories instead. -/
def propertyOf? (normalized : List Char) : Option CharSet :=
  if normalized = "cf".toList || normalized = "sc".toList || normalized = "lc".toList then none
  else findNamed? properties normalized

end ErrorLint.Unicode

import DataGrid.Text.Unicode.Category
import DataGrid.Text.Unicode.Property

/-!
# Derived properties

Groups of categories, and the properties that follow from categories and other properties by
the rules of the standard, with their exceptions.
-/

namespace DataGrid.Unicode

/-- The characters of the named categories. -/
def unionOf (names : List String) : CharSet := .unionAll (names.map (tableOf categories))

def property (name : String) : CharSet := tableOf properties name

/-- Code points that are not characters and never will be, as they make up pairs. -/
def surrogates : CharSet := ⟨[(0xD800, 0xDFFF)]⟩

/-- Every character that stands for something. -/
def assigned : CharSet := .unionAll (surrogates :: categories.map (·.toCharSet))

def unassigned : CharSet := assigned.complement

/-- The categories that a group of categories holds. -/
def categoryGroups : List (List String × List String) := [
  (["l", "letter"], ["lu", "ll", "lt", "lm", "lo"]),
  (["lc", "casedletter"], ["lu", "ll", "lt"]),
  (["m", "mark", "combiningmark"], ["mn", "mc", "me"]),
  (["n", "number"], ["nd", "nl", "no"]),
  (["p", "punctuation", "punct"], ["pc", "pd", "ps", "pe", "pi", "pf", "po"]),
  (["s", "symbol"], ["sm", "sc", "sk", "so"]),
  (["z", "separator"], ["zs", "zl", "zp"])]

/-- The set of a category or of a group of categories. -/
def category? (name : String) : Option CharSet :=
  match name with
  | "any" => some .all
  | "ascii" => some ⟨[(0, 0x7F)]⟩
  | "assigned" => some assigned
  | "cn" | "unassigned" => some unassigned
  | "c" | "other" => some (unassigned.union (unionOf ["cc", "cf", "co"]))
  | _ =>
    match categoryGroups.find? (·.1.contains name) with
    | some g => some (unionOf g.2)
    | none => find? categories name

def letters : CharSet := unionOf ["lu", "ll", "lt", "lm", "lo"]

def marks : CharSet := unionOf ["mn", "mc", "me"]

def digits : CharSet := unionOf ["nd"]

def numeric : CharSet := unionOf ["nd", "nl", "no"]

def lowercase : CharSet := (unionOf ["ll"]).union (property "olower")

def uppercase : CharSet := (unionOf ["lu"]).union (property "oupper")

def cased : CharSet := .unionAll [lowercase, uppercase, unionOf ["lt"]]

def alphabetic : CharSet := .unionAll [letters, unionOf ["nl"], property "oalpha"]

def math : CharSet := (unionOf ["sm"]).union (property "omath")

/-- Marks that extend the character before them. -/
def graphemeExtend : CharSet := (unionOf ["mn", "me"]).union (property "ogrext")

/-- Characters that can be seen and stand on their own. -/
def graphemeBase : CharSet :=
  (CharSet.unionAll [surrogates, unassigned, unionOf ["cc", "cf", "co", "zl", "zp"],
    graphemeExtend]).complement

/-- Characters of punctuation and blanks that a text format may use. -/
def patternCharacters : CharSet := (property "patsyn").union (property "patws")

def identifierStart : CharSet :=
  (CharSet.unionAll [letters, unionOf ["nl"], property "oids"]).diff patternCharacters

def identifierContinue : CharSet :=
  (CharSet.unionAll [identifierStart, unionOf ["mn", "mc", "nd", "pc"],
    property "oidc"]).diff patternCharacters

/-- Characters that would leave identifiers when a text is brought to its compatible form. -/
def incompatible : CharSet :=
  setOf "37a 309b-309c fc5e-fc63 fdfa-fdfb fe70 fe72 fe74 fe76 fe78 fe7a fe7c fe7e"

/-- Characters that only stop being the first of an identifier in the compatible form. -/
def incompatibleStart : CharSet := setOf "e33 eb3 ff9e-ff9f"

def compatibleStart : CharSet := identifierStart.diff (incompatible.union incompatibleStart)

def compatibleContinue : CharSet := identifierContinue.diff incompatible

/-- Annotation marks and controls of ancient writing, which are shown. -/
def shownFormats : CharSet := setOf "fff9-fffb 13430-13440"

def defaultIgnorable : CharSet :=
  (CharSet.unionAll [property "odi", unionOf ["cf"], property "vs"]).diff
    (.unionAll [property "wspace", shownFormats, property "pcm"])

/-- Points and apostrophes that may stand inside a word. -/
def wordPoints : CharSet :=
  setOf "27 2e 3a b7 387 55f 5f4 2018-2019 2024 2027 fe13 fe52 fe55 ff07 ff0e ff1a"

/-- Characters that case rules look past. -/
def caseIgnorable : CharSet := (unionOf ["mn", "me", "cf", "lm", "sk"]).union wordPoints

/-- Capital letters without a small form. -/
def onlyCapital : CharSet := setOf
    "3d2-3d4 2102 2107 210b-210d 2110-2112 2115 2119-211d 2124 2128 212c-212d 2130-2131 2133
     213e-213f 2145 1d400-1d419 1d434-1d44d 1d468-1d481 1d49c 1d49e-1d49f 1d4a2 1d4a5-1d4a6
     1d4a9-1d4ac 1d4ae-1d4b5 1d4d0-1d4e9 1d504-1d505 1d507-1d50a 1d50d-1d514 1d516-1d51c
     1d538-1d539 1d53b-1d53e 1d540-1d544 1d546 1d54a-1d550 1d56c-1d585 1d5a0-1d5b9
     1d5d4-1d5ed 1d608-1d621 1d63c-1d655 1d670-1d689 1d6a8-1d6c0 1d6e2-1d6fa 1d71c-1d734
     1d756-1d76e 1d790-1d7a8 1d7ca 1f130-1f149 1f150-1f169 1f170-1f189"

def changesLowercased : CharSet := (uppercase.union (unionOf ["lt"])).diff onlyCapital

/-- Small letters without a capital form, and other characters that have one. -/
def uppercasedExceptions : CharSet := setOf
    "138 18d 1aa-1ab 1ba 1be 221 234-239 255 258 25a 25d-25f 262 267 26d-26e 270 273-274
     276-27c 27e-27f 281 284-286 28d-291 293 295-29c 29f-2af 345 3fc 560 588 1d00-1d2b
     1d6b-1d77 1d7a-1d7c 1d7e-1d8d 1d8f-1d9a 1e9c-1e9d 1e9f 210a 210e-210f 2113 212f 2134
     2139 213c-213d 2146-2149 2170-217f 24d0-24e9 2c71 2c74 2c77-2c7b 2ce4 a730-a731
     a771-a778 a78e a795 a7af a7d3 a7d5 a7fa ab30-ab52 ab54-ab5a ab60-ab68 1d41a-1d433
     1d44e-1d454 1d456-1d467 1d482-1d49b 1d4b6-1d4b9 1d4bb 1d4bd-1d4c3 1d4c5-1d4cf
     1d4ea-1d503 1d51e-1d537 1d552-1d56b 1d586-1d59f 1d5ba-1d5d3 1d5ee-1d607 1d622-1d63b
     1d656-1d66f 1d68a-1d6a5 1d6c2-1d6da 1d6dc-1d6e1 1d6fc-1d714 1d716-1d71b 1d736-1d74e
     1d750-1d755 1d770-1d788 1d78a-1d78f 1d7aa-1d7c2 1d7c4-1d7c9 1d7cb 1df00-1df09
     1df0b-1df1e 1df25-1df2a"

def changesUppercased : CharSet := (unionOf ["ll", "lt"]).symmDiff uppercasedExceptions

/-- Where the first capital of a word differs from a capital inside it. -/
def titlecasedExceptions : CharSet := setOf
    "1c4-1c5 1c7-1c8 1ca-1cb 1f1-1f2 10d0-10fa 10fd-10ff 1f88-1f8f 1f98-1f9f 1fa8-1faf 1fbc
     1fcc 1ffc"

def changesTitlecased : CharSet := changesUppercased.symmDiff titlecasedExceptions

/-- Where the folded form differs from the small one. -/
def foldedExceptions : CharSet := setOf
    "b5 df 149 17f 345 3c2 3d0-3d1 3d5-3d6 3f0-3f1 3f5 587 13a0-13f5 13f8-13fd 1c80-1c88
     1e9a-1e9b 1f80-1f87 1f90-1f97 1fa0-1fa7 1fb2-1fb4 1fb7 1fc2-1fc4 1fc7 1ff2-1ff4 1ff7
     ab70-abbf fb00-fb06 fb13-fb17"

def changesFolded : CharSet := changesLowercased.symmDiff foldedExceptions

def changesMapped : CharSet :=
  .unionAll [changesLowercased, changesUppercased, changesTitlecased]

/-- The set of a binary property. -/
def binary? (name : String) : Option CharSet :=
  match name with
  | "lower" | "lowercase" => some lowercase
  | "upper" | "uppercase" => some uppercase
  | "cased" => some cased
  | "alpha" | "alphabetic" => some alphabetic
  | "math" => some math
  | "grext" | "graphemeextend" => some graphemeExtend
  | "grbase" | "graphemebase" => some graphemeBase
  | "ids" | "idstart" => some identifierStart
  | "idc" | "idcontinue" => some identifierContinue
  | "xids" | "xidstart" => some compatibleStart
  | "xidc" | "xidcontinue" => some compatibleContinue
  | "di" | "defaultignorablecodepoint" => some defaultIgnorable
  | "ci" | "caseignorable" => some caseIgnorable
  | "cwl" | "changeswhenlowercased" => some changesLowercased
  | "cwu" | "changeswhenuppercased" => some changesUppercased
  | "cwt" | "changeswhentitlecased" => some changesTitlecased
  | "cwcf" | "changeswhencasefolded" => some changesFolded
  | "cwcm" | "changeswhencasemapped" => some changesMapped
  | _ => find? properties name

end DataGrid.Unicode

import DataGrid.Text.Unicode.Derived
import DataGrid.Text.Unicode.Script

/-!
# Boundaries in texts

The classes of characters by which a text is divided into clusters, words and sentences.
-/

namespace DataGrid.Unicode

/-! ## Clusters -/

def graphemeTables : List PropertyTable := [
  ⟨["cr"],
    "d"⟩,
  ⟨["lf"],
    "a"⟩,
  ⟨["zwj"],
    "200d"⟩,
  ⟨["pp", "prepend"],
    "600-605 6dd 70f 890-891 8e2 d4e 110bd 110cd 111c2-111c3 113d1 1193f 11941 11a3a
     11a84-11a89 11d46 11f02"⟩,
  ⟨["ri", "regionalindicator"],
    "1f1e6-1f1ff"⟩,
  ⟨["l"],
    "1100-115f a960-a97c"⟩,
  ⟨["v"],
    "1160-11a7 d7b0-d7c6 16d63 16d67-16d6a"⟩,
  ⟨["t"],
    "11a8-11ff d7cb-d7fb"⟩]

/-- Where the written syllables of Korean stand. -/
def syllables : CharSet := ⟨[(0xAC00, 0xD7A3)]⟩

/-- The syllables without a final consonant: every 28th one. -/
def openSyllables : CharSet :=
  ⟨(List.range 399).map fun i => (0xAC00 + 28 * i, 0xAC00 + 28 * i)⟩

def clusterExtend : CharSet := graphemeExtend.union (property "emod")

/-- Ends of lines, formats, and unassigned characters that are not shown. -/
def clusterControl : CharSet :=
  (CharSet.unionAll [unionOf ["cc", "cf", "zl", "zp"], defaultIgnorable.inter unassigned]).diff
    (.unionAll [setOf "a d 200d", property "pcm", graphemeExtend])

/-- Spacing marks of scripts whose marks do not join, and vowels of Thai and Lao that do. -/
def spacingExceptions : CharSet := setOf
    "e33 eb3 102b-102c 1038 1062-1064 1067-106d 1083 1087-108c 108f 109a-109c 1a61 1a63-1a64
     aa7b aa7d 11720-11721"

def clusterSpacing : CharSet :=
  ((unionOf ["mc"]).diff clusterExtend).symmDiff spacingExceptions

/-- The characters of a class of the division into clusters. -/
def graphemeBreak? (name : String) : Option CharSet :=
  match name with
  | "cn" | "control" => some clusterControl
  | "ex" | "extend" => some clusterExtend
  | "sm" | "spacingmark" => some clusterSpacing
  | "lv" => some openSyllables
  | "lvt" => some (syllables.diff openSyllables)
  | _ => find? graphemeTables name

/-! ## Words and sentences -/

def wordTables : List PropertyTable := [
  ⟨["cr"],
    "d"⟩,
  ⟨["lf"],
    "a"⟩,
  ⟨["nl", "newline"],
    "b-c 85 2028-2029"⟩,
  ⟨["zwj"],
    "200d"⟩,
  ⟨["ri", "regionalindicator"],
    "1f1e6-1f1ff"⟩,
  ⟨["sq", "singlequote"],
    "27"⟩,
  ⟨["dq", "doublequote"],
    "22"⟩,
  ⟨["ml", "midletter"],
    "3a b7 387 55f 5f4 2027 fe13 fe55 ff1a"⟩,
  ⟨["mn", "midnum"],
    "2c 3b 37e 589 60c-60d 66c 7f8 2044 fe50 fe54 ff0c ff1b"⟩,
  ⟨["mb", "midnumlet"],
    "2e 2018-2019 2024 fe52 ff07 ff0e"⟩,
  ⟨["ka", "katakana"],
    "3031-3035 309b-309c 30a0-30fa 30fc-30ff 31f0-31ff 32d0-32fe 3300-3357 ff66-ff9d
     1aff0-1aff3 1aff5-1affb 1affd-1affe 1b000 1b120-1b122 1b155 1b164-1b167"⟩,
  ⟨["ex", "extendnumlet"],
    "5f 202f 203f-2040 2054 fe33-fe34 fe4d-fe4f ff3f"⟩,
  ⟨["wsegspace"],
    "20 1680 2000-2006 2008-200a 205f 3000"⟩,
  ⟨["fo", "format"],
    "ad 61c 180e 200e-200f 202a-202e 2060-2064 2066-206f feff fff9-fffb 13430-1343f
     1bca0-1bca3 1d173-1d17a e0001"⟩,
  ⟨["hl", "hebrewletter"],
    "5d0-5ea 5ef-5f2 fb1d fb1f-fb28 fb2a-fb36 fb38-fb3c fb3e fb40-fb41 fb43-fb44 fb46-fb4f"⟩]

def sentenceTables : List PropertyTable := [
  ⟨["cr"],
    "d"⟩,
  ⟨["lf"],
    "a"⟩,
  ⟨["se", "sep"],
    "85 2028-2029"⟩,
  ⟨["fo", "format"],
    "ad 61c 70f 180e 200b 200e-200f 202a-202e 2060-2064 2066-206f feff fff9-fffb 13430-1343f
     1bca0-1bca3 1d173-1d17a e0001"⟩,
  ⟨["at", "aterm"],
    "2e 2024 fe52 ff0e"⟩,
  ⟨["sc", "scontinue"],
    "2c-2d 3a-3b 37e 55d 60c-60d 7f8 1802 1808 2013-2014 3001 fe10-fe11 fe13-fe14 fe31-fe32
     fe50-fe51 fe54-fe55 fe58 fe63 ff0c-ff0d ff1a-ff1b ff64"⟩,
  ⟨["cl", "close"],
    "22 27-29 5b 5d 7b 7d ab bb f3a-f3d 169b-169c 2018-201f 2039-203a 2045-2046 207d-207e
     208d-208e 2308-230b 2329-232a 275b-2760 2768-2775 27c5-27c6 27e6-27ef 2983-2998
     29d8-29db 29fc-29fd 2e00-2e0d 2e1c-2e1d 2e20-2e29 2e42 2e55-2e5c 3008-3011 3014-301b
     301d-301f fd3e-fd3f fe17-fe18 fe35-fe44 fe47-fe48 fe59-fe5e ff08-ff09 ff3b ff3d ff5b
     ff5d ff5f-ff60 ff62-ff63 1f676-1f678"⟩]

/-- The joiner of emoji. -/
def joiner : CharSet := setOf "200d"

def sentenceExtend : CharSet := .unionAll [graphemeExtend, unionOf ["mc"], joiner]

def wordExtend : CharSet := (sentenceExtend.union (property "emod")).diff joiner

/-- Digits, and the signs that stand around them. -/
def wordNumeric : CharSet :=
  digits.union (setOf "600-605 66b 6dd 890-891 8e2 19da 110bd 110cd")

/-- Letters of scripts that are written without blanks, and signs that are used as letters. -/
def wordLetterExceptions : CharSet := setOf
    "2c2-2c5 2d2-2d7 2de-2df 2e5-2eb 2ed 2ef-2ff 55a-55c 55e 58a 5f3 70f e01-e30 e32-e33
     e40-e46 e81-e82 e84 e86-e8a e8c-ea3 ea5 ea7-eb0 eb2-eb3 ebd ec0-ec4 ec6 edc-edf
     1000-102a 103f 1050-1055 105a-105d 1061 1065-1066 106e-1070 1075-1081 108e 1780-17b3
     17d7 17dc 1950-196d 1970-1974 1980-19ab 19b0-19c9 1a20-1a54 1aa7 a708-a716 a720-a721
     a789-a78a a9e0-a9e4 a9e6-a9ef a9fa-a9fe aa60-aa76 aa7a aa7e-aaaf aab1 aab5-aab6
     aab9-aabd aac0 aac2 aadb-aadd ab5b 11700-1171a 11740-11746"

def wordLetter : CharSet :=
  (alphabetic.diff (.unionAll [property "ideo", tableOf wordTables "ka",
    tableOf scripts "hira", wordExtend, tableOf wordTables "hl"])).symmDiff wordLetterExceptions

/-- The characters of a class of the division into words. -/
def wordBreak? (name : String) : Option CharSet :=
  match name with
  | "le" | "aletter" => some wordLetter
  | "extend" => some wordExtend
  | "nu" | "numeric" => some wordNumeric
  | _ => find? wordTables name

def sentenceLower : CharSet :=
  (lowercase.diff graphemeExtend).diff (setOf "10d0-10fa 10fd-10ff")

def sentenceUpper : CharSet := (uppercase.union (unionOf ["lt"])).diff (setOf "1c90-1cbf")

def sentenceLetter : CharSet :=
  (alphabetic.union (setOf "5f3")).diff
    (.unionAll [sentenceLower, sentenceUpper, sentenceExtend])

/-- The characters of a class of the division into sentences. -/
def sentenceBreak? (name : String) : Option CharSet :=
  match name with
  | "ex" | "extend" => some sentenceExtend
  | "lo" | "lower" => some sentenceLower
  | "up" | "upper" => some sentenceUpper
  | "le" | "oletter" => some sentenceLetter
  | "nu" | "numeric" => some (wordNumeric.union (setOf "66c"))
  | "st" | "sterm" => some ((property "sterm").diff (tableOf sentenceTables "at"))
  | "sp" => some ((property "wspace").diff (setOf "a d 85 2028-2029"))
  | _ => find? sentenceTables name

end DataGrid.Unicode

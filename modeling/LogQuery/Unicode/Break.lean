import LogQuery.Unicode.Property

/-!
# Unicode.Break — where characters, words and sentences end

Three properties sort the code points by their part in the rules for the ends of characters, words
and sentences. Values that follow from other properties are derived; the others are listed.

* `graphemeBreakSet?`, `wordBreakSet?` and `sentenceBreakSet?` find a value by its name.
-/

namespace LogQuery.Unicode

/-! ## Characters -/

/-- The values for the ends of characters that are listed. -/
def graphemeBreaks : List ListedProperty := [
  ⟨["cr"], "d"⟩,
  ⟨["control", "cn"],
    "0-9 b-c e-1f 7f-9f ad 61c 180e 200b 200e-200f 2028-202e 2060-206f feff fff0-fffb
     13430-1343f 1bca0-1bca3 1d173-1d17a e0000-e001f e0080-e00ff e01f0-e0fff"⟩,
  ⟨["l"], "1100-115f a960-a97c"⟩,
  ⟨["lf"], "a"⟩,
  ⟨["prepend", "pp"],
    "600-605 6dd 70f 890-891 8e2 d4e 110bd 110cd 111c2-111c3 113d1 1193f 11941 11a3a
     11a84-11a89 11d46 11f02"⟩,
  ⟨["regionalindicator", "ri"], "1f1e6-1f1ff"⟩,
  ⟨["t"], "11a8-11ff d7cb-d7fb"⟩,
  ⟨["v"], "1160-11a7 d7b0-d7c6 16d63 16d67-16d6a"⟩,
  ⟨["zwj"], "200d"⟩]

/-- The code points that extend the character before them, with the skin tones of pictographs. -/
def graphemeTailSet : CodeSet := graphemeExtendSet.union (listedSet "emod")

/-- The marks that take room of their own and do not start a character. -/
def graphemeMarkSet : CodeSet :=
  ((Category.spacingMark.set.diff graphemeExtendSet).diff (.ofText
    "102b-102c 1038 1062-1064 1067-106d 1083 1087-108c 108f 109a-109c 1a61 1a63-1a64 aa7b aa7d
     11720-11721")).union
    (.ofText "e33 eb3")

/-- The Korean syllables of two letters. -/
def openSyllableSet : CodeSet := .ofText "ac00-d788/1c"

/-- The Korean syllables of three letters. -/
def closedSyllableSet : CodeSet := (CodeSet.ofText "ac00-d7a3").diff openSyllableSet

/-- The code points with this value for the ends of characters. -/
def graphemeBreakSet? (name : String) : Option CodeSet :=
  match name with
  | "extend" | "ex" => some graphemeTailSet
  | "spacingmark" | "sm" => some graphemeMarkSet
  | "lv" => some openSyllableSet
  | "lvt" => some closedSyllableSet
  | name => (graphemeBreaks.find? (·.names.contains name)).map fun p => .ofText p.text

/-! ## Words -/

/-- The values for the ends of words that are listed. -/
def wordBreaks : List ListedProperty := [
  ⟨["cr"], "d"⟩,
  ⟨["doublequote", "dq"], "22"⟩,
  ⟨["extendnumlet", "ex"], "5f 202f 203f-2040 2054 fe33-fe34 fe4d-fe4f ff3f"⟩,
  ⟨["format", "fo"],
    "ad 61c 180e 200e-200f 202a-202e 2060-2064 2066-206f feff fff9-fffb 13430-1343f 1bca0-1bca3
     1d173-1d17a e0001"⟩,
  ⟨["hebrewletter", "hl"],
    "5d0-5ea 5ef-5f2 fb1d fb1f-fb28 fb2a-fb36 fb38-fb3c fb3e fb40-fb41 fb43-fb44 fb46-fb4f"⟩,
  ⟨["katakana", "ka"],
    "3031-3035 309b-309c 30a0-30fa 30fc-30ff 31f0-31ff 32d0-32fe 3300-3357 ff66-ff9d
     1aff0-1aff3 1aff5-1affb 1affd-1affe 1b000 1b120-1b122 1b155 1b164-1b167"⟩,
  ⟨["lf"], "a"⟩,
  ⟨["midletter", "ml"], "3a b7 387 55f 5f4 2027 fe13 fe55 ff1a"⟩,
  ⟨["midnum", "mn"], "2c 3b 37e 589 60c-60d 66c 7f8 2044 fe50 fe54 ff0c ff1b"⟩,
  ⟨["midnumlet", "mb"], "2e 2018-2019 2024 fe52 ff07 ff0e"⟩,
  ⟨["newline", "nl"], "b-c 85 2028-2029"⟩,
  ⟨["regionalindicator", "ri"], "1f1e6-1f1ff"⟩,
  ⟨["singlequote", "sq"], "27"⟩,
  ⟨["wsegspace"], "20 1680 2000-2006 2008-200a 205f 3000"⟩,
  ⟨["zwj"], "200d"⟩]

/-- The listed value for the ends of words with this name, empty if there is none. -/
def listedWordBreak (name : String) : CodeSet :=
  match wordBreaks.find? (·.names.contains name) with
  | some value => .ofText value.text
  | none => .empty

/-- The code points that extend the character before them, with all marks and skin tones. -/
def wordTailSet : CodeSet :=
  .unions [graphemeTailSet, Category.spacingMark.set]

/-- The letters of words that are written with blanks between them, and characters used like
them. -/
def wordLetterSet : CodeSet :=
  (alphabeticSet.diff (.unions [listedSet "ideographic", listedWordBreak "katakana",
    listedWordBreak "hebrewletter", wordTailSet, .ofText
    "e01-e30 e32-e33 e40-e46 e81-e82 e84 e86-e8a e8c-ea3 ea5 ea7-eb0 eb2-eb3 ebd ec0-ec4 ec6
     edc-edf 1000-102a 103f 1050-1055 105a-105d 1061 1065-1066 106e-1070 1075-1081 108e
     1780-17b3 17d7 17dc 1950-196d 1970-1974 1980-19ab 19b0-19c9 1a20-1a54 1aa7 3041-3096
     309d-309f a9e0-a9e4 a9e6-a9ef a9fa-a9fe aa60-aa76 aa7a aa7e-aaaf aab1 aab5-aab6 aab9-aabd
     aac0 aac2 aadb-aadd 11700-1171a 11740-11746 1b001-1b11f 1b132 1b150-1b152"])).union
    (.ofText "2c2-2c5 2d2-2d7 2de-2df 2e5-2eb 2ed 2ef-2ff 55a-55c 55e 58a 5f3 70f a708-a716
             a720-a721 a789-a78a ab5b")

/-- The digits of numbers inside words. -/
def wordDigitSet : CodeSet :=
  digitSet.union (.ofText "600-605 66b 6dd 890-891 8e2 19da 110bd 110cd")

/-- The code points with this value for the ends of words. -/
def wordBreakSet? (name : String) : Option CodeSet :=
  match name with
  | "extend" => some wordTailSet
  | "aletter" | "le" => some wordLetterSet
  | "numeric" | "nu" => some wordDigitSet
  | name => (wordBreaks.find? (·.names.contains name)).map fun p => .ofText p.text

/-! ## Sentences -/

/-- The values for the ends of sentences that are listed. -/
def sentenceBreaks : List ListedProperty := [
  ⟨["aterm", "at"], "2e 2024 fe52 ff0e"⟩,
  ⟨["cr"], "d"⟩,
  ⟨["close", "cl"],
    "22 27-29 5b 5d 7b 7d ab bb f3a-f3d 169b-169c 2018-201f 2039-203a 2045-2046 207d-207e
     208d-208e 2308-230b 2329-232a 275b-2760 2768-2775 27c5-27c6 27e6-27ef 2983-2998 29d8-29db
     29fc-29fd 2e00-2e0d 2e1c-2e1d 2e20-2e29 2e42 2e55-2e5c 3008-3011 3014-301b 301d-301f
     fd3e-fd3f fe17-fe18 fe35-fe44 fe47-fe48 fe59-fe5e ff08-ff09 ff3b ff3d ff5b ff5d ff5f-ff60
     ff62-ff63 1f676-1f678"⟩,
  ⟨["format", "fo"],
    "ad 61c 70f 180e 200b 200e-200f 202a-202e 2060-2064 2066-206f feff fff9-fffb 13430-1343f
     1bca0-1bca3 1d173-1d17a e0001"⟩,
  ⟨["lf"], "a"⟩,
  ⟨["scontinue", "sc"],
    "2c-2d 3a-3b 37e 55d 60c-60d 7f8 1802 1808 2013-2014 3001 fe10-fe11 fe13-fe14 fe31-fe32
     fe50-fe51 fe54-fe55 fe58 fe63 ff0c-ff0d ff1a-ff1b ff64"⟩,
  ⟨["sep", "se"], "85 2028-2029"⟩,
  ⟨["sp"], "9 b-c 20 a0 1680 2000-200a 202f 205f 3000"⟩]

/-- The code points that extend the character before them, with all marks and the joiner. -/
def sentenceTailSet : CodeSet :=
  .unions [graphemeExtendSet, Category.spacingMark.set, .single 0x200d]

/-- The small letters of scripts that start a sentence with a capital. -/
def sentenceLowerSet : CodeSet :=
  (lowercaseSet.diff graphemeExtendSet).diff (.ofText "10d0-10fa 10fd-10ff")

/-- The capital letters of scripts that start a sentence with one. -/
def sentenceUpperSet : CodeSet :=
  (uppercaseSet.union Category.title.set).diff (.ofText "1c90-1cba 1cbd-1cbf")

/-- The letters that are neither small nor capital. -/
def sentenceLetterSet : CodeSet :=
  (alphabeticSet.union (.single 0x5f3)).diff
    (.unions [sentenceLowerSet, sentenceUpperSet, sentenceTailSet])

/-- The digits of numbers inside sentences. -/
def sentenceDigitSet : CodeSet :=
  digitSet.union (.ofText "600-605 66b-66c 6dd 890-891 8e2 19da 110bd 110cd")

/-- The signs that end a sentence wherever they stand. -/
def sentenceEndSet : CodeSet := (listedSet "sterm").diff (.ofText "2e 2024 fe52 ff0e")

/-- The code points with this value for the ends of sentences. -/
def sentenceBreakSet? (name : String) : Option CodeSet :=
  match name with
  | "extend" | "ex" => some sentenceTailSet
  | "lower" | "lo" => some sentenceLowerSet
  | "upper" | "up" => some sentenceUpperSet
  | "oletter" | "le" => some sentenceLetterSet
  | "numeric" | "nu" => some sentenceDigitSet
  | "sterm" | "st" => some sentenceEndSet
  | name => (sentenceBreaks.find? (·.names.contains name)).map fun p => .ofText p.text

end LogQuery.Unicode

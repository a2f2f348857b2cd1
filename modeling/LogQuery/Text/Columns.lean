import LogQuery.Text.Width

/-!
# Text.Columns — how many columns of a terminal a text takes

The width of a character depends on what comes after it, so a text is measured from its end. Signs
that are made of several characters, as flags, pictographs with a skin tone and a few pairs of
letters, take the width of the sign.

* `Ahead` is what a character needs to know of the characters after it.
* `Ahead.before` is the width that a character adds in front of them, which is negative where it
  takes back what the characters after it were given.
* `Text.columns` is the width of a text on one line.
-/

namespace LogQuery.Text

open Unicode

/-- The sign that the characters after a place begin with. -/
inductive Sign where
  /-- A sign that does not join with anything before it. -/
  | plain
  | lineFeed
  /-- A skin tone. -/
  | tone
  /-- A letter of a flag, with no such letter after it. -/
  | flagLetter
  /-- Two or more letters of flags. -/
  | flagLetters
  | pictograph
  /-- A joiner and a pictograph. -/
  | joined
  /-- The frame of a key in front of a joiner and a pictograph. -/
  | framed
  /-- A letter of a flag in front of a joiner and a pictograph. -/
  | joinedFlagLetter
  /-- An even number of letters of flags in front of a joiner and a pictograph. -/
  | joinedFlags
  /-- An odd number of letters of flags, three or more, in front of a joiner and a pictograph. -/
  | joinedFlagsAndLetter
  /-- The end of a tag in front of a joiner and a pictograph. -/
  | tagEnd
  /-- So many digits of a tag. -/
  | tagDigits (count : Nat)
  /-- So many letters of a tag. -/
  | tagLetters (count : Nat)
  /-- The vowel sign e of the Kirat Rai script. -/
  | kiratE
  /-- The vowel sign ai of the Kirat Rai script. -/
  | kiratAi
  /-- An Arabic alef. -/
  | alef
  /-- The Hebrew letter lamed. -/
  | lamed (joiner : Bool)
  /-- The Buginese letter ya. -/
  | bugineseYa (joiner : Bool)
  /-- The Buginese vowel sign i in front of a joiner and the letter ya. -/
  | bugineseVowel
  /-- A consonant of the Tifinagh script. -/
  | tifinagh (joiner : Bool)
  /-- The sign that joins a consonant of the Tifinagh script. -/
  | tifinaghJoiner
  /-- A tone letter of the Lisu script. -/
  | lisuTone
  /-- The Old Turkic letter i. -/
  | turkicI (joiner : Bool)
  /-- A Khmer letter. -/
  | khmer
  deriving DecidableEq, Repr

namespace Sign

/-- Whether the sign forms one sign with letters before it. -/
def isLigature : Sign → Bool
  | .alef | .lamed _ | .bugineseYa _ | .bugineseVowel | .tifinagh _ | .tifinaghJoiner | .lisuTone
  | .turkicI _ | .khmer => true
  | _ => false

/-- Whether joiners and selectors in front of the sign do not end it. -/
def isOpen (s : Sign) : Bool := s.isLigature && s != .alef

/-- Whether the sign joins with a pictograph before it. -/
def isJoined : Sign → Bool
  | .joined | .framed => true
  | _ => false

/-- The sign with a joiner in front. -/
def withJoiner : Sign → Sign
  | .lamed _ => .lamed true
  | .bugineseYa _ => .bugineseYa true
  | .tifinagh _ => .tifinagh true
  | .turkicI _ => .turkicI true
  | s => s

/-- The sign that a character starts by itself. -/
def ofChar (c : Char) : Sign :=
  if c = '\u05dc' then .lamed false
  else if c = '\u1a10' then .bugineseYa false
  else if c = '\ua4fc' ∨ c = '\ua4fd' then .lisuTone
  else if c.toNat = 0x10c03 then .turkicI false
  else if c.toNat = 0x16d67 then .kiratE
  else if c.toNat = 0x16d68 then .kiratAi
  else if alefSet.contains c.toNat then .alef
  else if khmerSet.contains c.toNat then .khmer
  else if tifinaghSet.contains c.toNat then .tifinagh false
  else if flagLetterSet.contains c.toNat then .flagLetter
  else if toneSet.contains c.toNat then .tone
  else if pictographSet.contains c.toNat then .pictograph
  else .plain

end Sign

/-- What comes after a character: a sign, and the ways in which the selectors in front of it ask for
the character to be shown. -/
structure Ahead where
  sign : Sign
  asPicture : Bool
  asText : Bool
  /-- Whether a quotation mark is to be shown in two columns. -/
  asQuote : Bool
  deriving DecidableEq, Repr

namespace Ahead

/-- A sign with no selector in front. -/
def ofSign (s : Sign) : Ahead := ⟨s, false, false, false⟩

/-- Nothing that joins with the character before it. -/
def nothing : Ahead := ofSign .plain

/-- A character that does not join with what comes after it. -/
def alone (c : Char) : Int × Ahead :=
  (charColumns c,
    { ofSign (.ofChar c) with
      asPicture := c = '\ufe0f', asText := c = '\ufe0e', asQuote := c = '\ufe01' })

/-- Whether a character is a letter of a tag. -/
def isTagLetter (c : Char) : Bool := 0xe0061 ≤ c.toNat && c.toNat ≤ 0xe007a

/-- Whether a character is a digit of a tag. -/
def isTagDigit (c : Char) : Bool := 0xe0030 ≤ c.toNat && c.toNat ≤ 0xe0039

/-- A character in front of some letters of a tag, whose limit is six: the black flag that a tag is
about ends it. -/
def beforeTagLetters (c : Char) (count : Nat) : Int × Ahead :=
  if isTagLetter c ∧ count < 6 then (0, ofSign (.tagLetters (count + 1)))
  else if isTagDigit c ∧ count < 5 then (0, ofSign (.tagDigits 1))
  else if c.toNat = 0x1f3f4 ∧ 3 ≤ count then (0, ofSign .pictograph)
  else alone c

/-- A character in front of some digits of a tag, whose limit is three. -/
def beforeTagDigits (c : Char) (count : Nat) : Int × Ahead :=
  if isTagDigit c ∧ count < 3 then (0, ofSign (.tagDigits (count + 1)))
  else if c.toNat = 0x1f3f4 ∧ 3 ≤ count then (0, ofSign .pictograph)
  else alone c

/-- A character in front of a joiner and a pictograph. -/
def beforeJoined (c : Char) : Int × Ahead :=
  if c = '\u20e3' then (0, ofSign .framed)
  else if flagLetterSet.contains c.toNat then (1, ofSign .joinedFlagLetter)
  else if toneSet.contains c.toNat then (0, ofSign .tone)
  else if c.toNat = 0xe007f then (0, ofSign .tagEnd)
  else if pictographSet.contains c.toNat then (0, ofSign .pictograph)
  else alone c

/-- A character in front of a sign that it may join with. -/
def beforeSign (c : Char) : Sign → Int × Ahead
  | .plain | .lineFeed | .framed => alone c
  | .tone =>
    if personSet.contains c.toNat then (0, ofSign .pictograph)
    else if c = '\u200d' then (0, ofSign .joined)
    else alone c
  | .flagLetter => if flagLetterSet.contains c.toNat then (1, ofSign .flagLetters) else alone c
  | .flagLetters =>
    if flagLetterSet.contains c.toNat then (1, ofSign .flagLetters)
    else if c = '\u200d' then (0, ofSign .joined)
    else alone c
  | .pictograph => if c = '\u200d' then (0, ofSign .joined) else alone c
  | .joined => beforeJoined c
  | .joinedFlagLetter =>
    if flagLetterSet.contains c.toNat then (-1, ofSign .joinedFlags) else alone c
  | .joinedFlags =>
    if flagLetterSet.contains c.toNat then (3, ofSign .joinedFlagsAndLetter)
    else if c = '\u200d' then (0, ofSign .joined)
    else alone c
  | .joinedFlagsAndLetter =>
    if flagLetterSet.contains c.toNat then (-1, ofSign .joinedFlags)
    else if c = '\u200d' then (0, ofSign .joined)
    else alone c
  | .tagEnd =>
    if isTagLetter c then (0, ofSign (.tagLetters 1))
    else if isTagDigit c then (0, ofSign (.tagDigits 1))
    else alone c
  | .tagDigits count => beforeTagDigits c count
  | .tagLetters count => beforeTagLetters c count
  | .kiratE =>
    if c.toNat = 0x16d63 ∨ c.toNat = 0x16d69 then (0, nothing)
    else if c.toNat = 0x16d67 then (0, ofSign .kiratAi)
    else if c.toNat = 0x16d68 then (1, ofSign .kiratE)
    else alone c
  | .kiratAi => if c.toNat = 0x16d63 then (0, nothing) else alone c
  | .alef =>
    if lamSet.contains c.toNat then (0, nothing)
    else if clearSet.contains c.toNat then (0, ofSign .alef)
    else alone c
  | .lamed joiner => if joiner ∧ c = '\u05d0' then (0, nothing) else alone c
  | .bugineseYa joiner =>
    if joiner ∧ c = '\u1a17' then (0, ofSign .bugineseVowel) else alone c
  | .bugineseVowel => if c = '\u1a15' then (0, nothing) else alone c
  | .tifinagh joiner =>
    if c = '\u2d7f' then (1, ofSign .tifinaghJoiner)
    else if joiner ∧ tifinaghSet.contains c.toNat then (0, nothing)
    else alone c
  | .tifinaghJoiner => if tifinaghSet.contains c.toNat then (-1, nothing) else alone c
  | .lisuTone => if '\ua4f8' ≤ c ∧ c ≤ '\ua4fb' then (0, nothing) else alone c
  | .turkicI joiner => if joiner ∧ c.toNat = 0x10c32 then (0, nothing) else alone c
  | .khmer => if c = '\u17d2' then (-1, nothing) else alone c

/-- A character in front of a sign and the selectors that are left. A sign with a selector that
asked for something else is only kept up by joiners and other selectors. -/
def beforeOpen (c : Char) (a : Ahead) : Int × Ahead :=
  if a.sign.isOpen ∧ c = '\u200d' then (0, { a with sign := a.sign.withJoiner })
  else if a.sign.isOpen ∧ selectorSet.contains c.toNat then (0, a)
  else if a.asQuote then alone c
  else beforeSign c a.sign

/-- Whether a character is a pictograph that may be shown as text. The two signs of Japanese stay
wide. -/
def mayBeText (c : Char) : Bool :=
  eitherWaySet.contains c.toNat && pictographSet.contains c.toNat
    && c.toNat != 0x1f21a && c.toNat != 0x1f22f

/-- Whether a character is one of the quotation marks that may be shown in two columns. -/
def mayBeWide (c : Char) : Bool :=
  c = '\u2018' || c = '\u2019' || c = '\u201c' || c = '\u201d'

/-- What is left of what comes after a selector: signs that join with letters stay. -/
def behindSelector (a : Ahead) : Ahead := if a.sign.isLigature then a else nothing

/-- A character that is not asked to be shown as a pictograph. -/
def beforeUnasked (c : Char) (a : Ahead) : Int × Ahead :=
  if c.toNat < 0xa1 then
    if c = '\n' then (1, ofSign .lineFeed)
    else if c = '\r' ∧ a = ofSign .lineFeed then (0, nothing)
    else (1, nothing)
  else if c = '\ufe0f' then
    (0, { (if a.sign.isJoined then a else a.behindSelector) with asPicture := true })
  else if c = '\ufe0e' then (0, { a.behindSelector with asText := true })
  else if c = '\ufe01' then (0, { a.behindSelector with asQuote := true })
  else if a.asText then
    if mayBeText c then (1, nothing) else beforeOpen c { a with asText := false }
  else if a.asQuote then
    if mayBeWide c then (2, nothing) else beforeOpen c { a with asQuote := false }
  else beforeOpen c a

/-- The columns that a character adds in front of what comes after it, and what comes after the
character before it. -/
def before (c : Char) (a : Ahead) : Int × Ahead :=
  if a.asPicture then
    if eitherWaySet.contains c.toNat then
      (if a.sign.isJoined then 0 else 2, ofSign .pictograph)
    else beforeUnasked c { a.behindSelector with asPicture := false }
  else beforeUnasked c a

end Ahead

/-- The columns of characters, and what they begin with. -/
def measure (cs : List Char) : Int × Ahead :=
  cs.foldr (fun c (columns, a) => ((a.before c).1 + columns, (a.before c).2)) (0, .nothing)

/-- The columns of a text on one line. -/
def columns (s : String) : Nat := (measure s.toList).1.toNat

end LogQuery.Text

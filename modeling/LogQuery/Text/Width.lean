import LogQuery.Unicode.Property

/-!
# Text.Width — the width of single characters on a terminal

A character takes one column, or two if it is wide, or none if it only changes the characters around
it. The sets here follow a later version of Unicode than the properties of patterns do.

* `Text.charColumns` is the width of a character with nothing after it.
* The other sets are those whose characters join with their neighbours.
-/

namespace LogQuery.Text

open Unicode

/-- The letters that name a flag in pairs. -/
def flagLetterSet : CodeSet := listedSet "regionalindicator"

/-- The skin tones of pictographs. -/
def toneSet : CodeSet := listedSet "emojimodifier"

/-- The pictographs that show a person or a part of one, and take a skin tone. -/
def personSet : CodeSet := listedSet "emojimodifierbase"

/-- The characters that are shown as pictographs unless asked otherwise, but for skin tones. -/
def pictographSet : CodeSet :=
  ((listedSet "emojipresentation").union (.ofText "1f6d8 1fa8a 1fa8e 1fac8 1facd 1faea 1faef")).diff
    (flagLetterSet.union toneSet)

/-- The characters that may be asked to be shown as pictographs or as text. -/
def eitherWaySet : CodeSet := .ofText
  "23 2a 30-39 a9 ae 203c 2049 2122 2139 2194-2199 21a9-21aa 231a-231b 2328 23cf 23e9-23f3
     23f8-23fa 24c2 25aa-25ab 25b6 25c0 25fb-25fe 2600-2604 260e 2611 2614-2615 2618 261d
     2620 2622-2623 2626 262a 262e-262f 2638-263a 2640 2642 2648-2653 265f-2660 2663
     2665-2666 2668 267b 267e-267f 2692-2697 2699 269b-269c 26a0-26a1 26a7 26aa-26ab
     26b0-26b1 26bd-26be 26c4-26c5 26c8 26ce-26cf 26d1 26d3-26d4 26e9-26ea 26f0-26f5
     26f7-26fa 26fd 2702 2705 2708-270d 270f 2712 2714 2716 271d 2721 2728 2733-2734 2744
     2747 274c 274e 2753-2755 2757 2763-2764 2795-2797 27a1 27b0 27bf 2934-2935 2b05-2b07
     2b1b-2b1c 2b50 2b55 3030 303d 3297 3299 1f004 1f170-1f171 1f17e-1f17f 1f202 1f21a 1f22f
     1f237 1f30d-1f30f 1f315 1f31c 1f321 1f324-1f32c 1f336 1f378 1f37d 1f393 1f396-1f397
     1f399-1f39b 1f39e-1f39f 1f3a7 1f3ac-1f3ae 1f3c2 1f3c4 1f3c6 1f3ca-1f3ce 1f3d4-1f3e0
     1f3ed 1f3f3 1f3f5 1f3f7 1f408 1f415 1f41f 1f426 1f43f 1f441-1f442 1f446-1f449
     1f44d-1f44e 1f453 1f46a 1f47d 1f4a3 1f4b0 1f4b3 1f4bb 1f4bf 1f4cb 1f4da 1f4df
     1f4e4-1f4e6 1f4ea-1f4ed 1f4f7 1f4f9-1f4fb 1f4fd 1f508 1f50d 1f512-1f513 1f549-1f54a
     1f550-1f567 1f56f-1f570 1f573-1f579 1f587 1f58a-1f58d 1f590 1f5a5 1f5a8 1f5b1-1f5b2
     1f5bc 1f5c2-1f5c4 1f5d1-1f5d3 1f5dc-1f5de 1f5e1 1f5e3 1f5e8 1f5ef 1f5f3 1f5fa 1f610
     1f687 1f68d 1f691 1f694 1f698 1f6ad 1f6b2 1f6b9-1f6ba 1f6bc 1f6cb 1f6cd-1f6cf
     1f6e0-1f6e5 1f6e9 1f6f0 1f6f3"

/-- The wide characters that are not pictographs. -/
def wideSet : CodeSet := .ofText
  "1100-115f 17a4 2329-232a 2630-2637 268a-268f 2e80-2e99 2e9b-2ef3 2f00-2fd5 2ff0-3029
     3030-303e 3041-3096 309b-30ff 3105-312f 3131-3163 3165-318e 3190-31e5 31ef-321e
     3220-3247 3250-a48c a490-a4c6 a960-a97c ac00-d7a3 f900-faff fe10-fe19 fe30-fe52
     fe54-fe66 fe68-fe6b ff01-ff60 ffe0-ffe6 16fe0-16fe3 16ff2-16ff6 17000-18cd5 18cff-18d1e
     18d80-18df2 1aff0-1aff3 1aff5-1affb 1affd-1affe 1b000-1b122 1b132 1b150-1b152 1b155
     1b164-1b167 1b170-1b2fb 1d300-1d356 1d360-1d376 1f200 1f202 1f210-1f219 1f21b-1f22e
     1f230-1f231 1f237 1f23b 1f240-1f248 1f260-1f265 20000-2fffd 30000-3fffd"

/-- The characters without a width of their own: those that extend the character before them, those
that are ignored by default, the later parts of Korean syllables, and a few marks. -/
def unseenSet : CodeSet :=
  (CodeSet.unions [graphemeExtendSet, ignorableSet, .ofText
    "605 70f 890-891 8e2 d4e 1161-11ff 1acf-1add 1ae0-1aeb a8fa d7b0-d7c6 d7cb-d7fb
     10efa-10efb 111c2-111c3 113d1 1193f 11941 11a84-11a89 11b60 11b62-11b64 11b66 11d46
     11f02 1e6e3 1e6e6 1e6ee-1e6ef 1e6f5"]).diff
    (.ofText "115f 2d7f")

/-- The characters without a width that keep letters apart. -/
def solidSet : CodeSet := .ofText
  "605 890-891 8e2 9be 9d7 b3e b57 bbe bd7 cc0 cc2 cc7-cc8 cca-ccb cd5-cd6 d3e d4e d57 dcf
     ddf 1160-11ff 1715 1734 180e 1b35 1b3b 1b3d 1b43-1b44 1baa 1bf2-1bf3 200c-200d 2065-2069
     302e-302f 3164 a8fa a953 a9c0 d7b0-d7c6 d7cb-d7fb ff9e-ffa0 fff0-fff8 111c0 111c2-111c3
     11235 1133e 1134d 11357 113b8 113c2 113c5 113c7-113c9 113cf 113d1 114b0 114bd 115af
     116b6 11930 1193d 1193f 11941 11a84-11a89 11d46 11f02 11f41 16ff0-16ff1 1d165-1d166
     1d16d-1d172 e0000 e0002-e001f e0080-e00ff e01f0-e0fff"

/-- The characters without a width that do not keep Arabic letters apart. -/
def clearSet : CodeSet := unseenSet.diff solidSet

/-- The forms of the Arabic letter alef that form one sign with a lam before them. -/
def alefSet : CodeSet := .ofText "622-623 625 627 671-673 675 773-774 870-882"

/-- The forms of the Arabic letter lam. -/
def lamSet : CodeSet := .ofText "644 6b5-6b8 76a 8a6 8c7"

/-- The Khmer letters that may be written below the letter before them. -/
def khmerSet : CodeSet := .ofText
  "1780-1782 1784-1787 1789-178c 178e-1793 1795-1798 179b-179d 17a0 17a2 17a7 17ab-17ac
     17af"

/-- The consonants of the Tifinagh script. -/
def tifinaghSet : CodeSet := .ofText "2d31-2d65 2d6f"

/-- The characters that stand in the middle of other signs without keeping them apart. -/
def selectorSet : CodeSet := .ofText "34f 17b4-17b5 180b-180d 180f fe00-fe0f e0100-e01ef"

/-- The columns of a character by itself. Control characters take one. -/
def charColumns (c : Char) : Nat :=
  if c.toNat < 0xa1 then 1
  else if c = '\u17d8' then 3
  else if unseenSet.contains c.toNat then 0
  else if [wideSet, pictographSet, toneSet].any (·.contains c.toNat) then 2
  else 1

end LogQuery.Text

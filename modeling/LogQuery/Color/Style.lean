import LogQuery.Color
import LogQuery.Text.Substring

/-!
# Color.Style — the look of a text on a terminal

A style is written as a control sequence before the text, and another one after it resets the
terminal. Where the text itself resets the terminal, the style is written again.

* `Style.apply` gives a text a style; on a terminal without colors it changes nothing.
-/

namespace LogQuery

/-- What a terminal can show. -/
structure Terminal where
  /-- Whether styles are written at all. -/
  styled : Bool := false
  /-- Whether colors may be given by their parts. -/
  allColors : Bool := false
  deriving DecidableEq, Repr

/-- The weight of a text. -/
inductive Weight where
  | normal
  | bold
  | dimmed
  deriving DecidableEq, Repr

/-- The look of a text. -/
structure Style where
  weight : Weight := .normal
  foreground : Option Color := none
  background : Option Color := none
  deriving DecidableEq, Repr

namespace Style

/-- The code that resets a terminal. -/
def reset : String := "\x1b[0m"

/-- The codes of a weight. -/
def weightCodes : Weight → List String
  | .normal => []
  | .bold => ["1"]
  | .dimmed => ["2"]

/-- The codes of a color; `shift` is 0 for the text and 10 for what lies behind it. -/
def colorCode (t : Terminal) (shift : Nat) (color : Color) : String :=
  match if t.allColors then color else color.nearest with
  | .named bright hue => toString ((if bright then 90 else 30) + shift + hue.index)
  | .parts red green blue =>
    String.intercalate ";"
      [toString (38 + shift), "2", toString red.toNat, toString green.toNat, toString blue.toNat]

/-- All codes of a style. -/
def codes (t : Terminal) (s : Style) : List String :=
  weightCodes s.weight ++ (s.background.map (colorCode t 10)).toList ++
    (s.foreground.map (colorCode t 0)).toList

/-- Write a text in a style. -/
def apply (t : Terminal) (s : Style) (text : String) : String :=
  let codes := s.codes t
  if !t.styled || codes.isEmpty then text
  else
    let start := "\x1b[" ++ String.intercalate ";" codes ++ "m"
    start ++ Text.replaceAll reset (reset ++ start) text ++ reset

end Style

end LogQuery

import LogQuery.Text.Lowercase
import LogQuery.Text.Blank
import LogQuery.Text.Hex
import LogQuery.Power

/-!
# Color — colors of text on a terminal

A terminal has eight hues in a plain and a bright form; a color may also be given by its red, green
and blue parts.

* `Color.ofText?` reads the name of a color or its parts, `Color.label` names it in listings.
* `Color.nearest` is the closest of the sixteen named colors.
-/

namespace LogQuery

/-- The hues of a terminal. -/
inductive Hue where
  | black
  | red
  | green
  | yellow
  | blue
  | magenta
  | cyan
  | white
  deriving DecidableEq, Repr

/-- A color. -/
inductive Color where
  | named (bright : Bool) (hue : Hue)
  | parts (red green blue : UInt8)
  deriving DecidableEq, Repr

namespace Hue

/-- The hues in the order of their numbers. -/
def all : List Hue := [.black, .red, .green, .yellow, .blue, .magenta, .cyan, .white]

/-- The number of a hue. -/
def index : Hue → Nat
  | .black => 0
  | .red => 1
  | .green => 2
  | .yellow => 3
  | .blue => 4
  | .magenta => 5
  | .cyan => 6
  | .white => 7

/-- The name of a hue, with a capital. -/
def label : Hue → String
  | .black => "Black"
  | .red => "Red"
  | .green => "Green"
  | .yellow => "Yellow"
  | .blue => "Blue"
  | .magenta => "Magenta"
  | .cyan => "Cyan"
  | .white => "White"

/-- The hue with a name in lower case. -/
def ofName? (name : String) : Option Hue := all.find? fun hue => Text.lower hue.label = name

end Hue

namespace Color

/-! ## Reading and naming -/

/-- The value of a part: one or two hexadecimal digits, or a plus sign and one digit. -/
def part? (cs : List Char) : Option Nat :=
  match cs with
  | ['+', c] => Text.hexValue? c
  | [c, d] => do pure (16 * (← Text.hexValue? c) + (← Text.hexValue? d))
  | _ => none

/-- The color with the given parts: two characters for each part, or one that is written twice. -/
def ofParts? : List Char → Option Color
  | [r₁, r₂, g₁, g₂, b₁, b₂] => do
    let red ← part? [r₁, r₂]
    let green ← part? [g₁, g₂]
    let blue ← part? [b₁, b₂]
    pure (.parts red.toUInt8 green.toUInt8 blue.toUInt8)
  | [r, g, b] => do
    let red ← Text.hexValue? r
    let green ← Text.hexValue? g
    let blue ← Text.hexValue? b
    pure (.parts (17 * red).toUInt8 (17 * green).toUInt8 (17 * blue).toUInt8)
  | _ => none

/-- The color with a name in lower case; purple is another name of magenta. -/
def ofName? (name : String) : Option Color :=
  if name = "purple" then some (.named false .magenta)
  else
    let cs := name.toList
    let bright := "bright ".toList
    if bright.isPrefixOf cs then
      (Hue.ofName? (String.ofList (cs.drop bright.length))).map (.named true)
    else (Hue.ofName? name).map (.named false)

/-- Read a color: a name in any case, or its parts after `#`. White space around it is ignored. -/
def ofText? (s : String) : Option Color :=
  match (Text.lower (Text.trim s)).toList with
  | '#' :: cs => ofParts? cs
  | cs => ofName? (String.ofList cs)

/-- A color as it is named in listings. -/
def label : Color → String
  | .named bright hue => (if bright then "Bright" else "") ++ hue.label
  | .parts red green blue =>
    "TrueColor \x7b r: " ++ toString red.toNat ++ ", g: " ++ toString green.toNat ++ ", b: " ++
      toString blue.toNat ++ " \x7d"

/-- A color as it is named in listings, or a dash. -/
def label? (color : Option Color) : String := color.elim "-" label

/-! ## The nearest named color -/

/-- The sixteen named colors, the plain ones first. -/
def allNamed : List Color := Hue.all.map (.named false) ++ Hue.all.map (.named true)

/-- The parts of the named colors, in the order of `allNamed`. -/
def namedParts : List (Nat × Nat × Nat) := [
  (0, 0, 0), (205, 0, 0), (0, 205, 0), (205, 205, 0),
  (0, 0, 238), (205, 0, 205), (0, 205, 205), (229, 229, 229),
  (127, 127, 127), (255, 0, 0), (0, 255, 0), (255, 255, 0),
  (92, 92, 255), (255, 0, 255), (0, 255, 255), (255, 255, 255)]

/-- The square of the difference of two numbers. -/
def squaredGap (a b : Nat) : Nat := (max a b - min a b) ^ 2

/-- The square of the distance between two colors given by their parts. -/
def distance (a b : Nat × Nat × Nat) : Nat :=
  squaredGap a.1 b.1 + squaredGap a.2.1 b.2.1 + squaredGap a.2.2 b.2.2

/-- The first of the named colors with the least distance. A named color stays as it is. -/
def nearest : Color → Color
  | .parts red green blue =>
    let here := (red.toNat, green.toNat, blue.toNat)
    let candidates := (allNamed.zip namedParts).map fun (color, there) =>
      (color, distance here there)
    (candidates.foldl (fun best c => if c.2 < best.2 then c else best)
      (.named false .black, distance here (0, 0, 0))).1
  | color => color

end Color

end LogQuery

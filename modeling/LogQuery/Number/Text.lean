import LogQuery.Number.Shortest

/-!
# Number.Text — writing and reading numbers

* `Number.plain` writes every digit by position; `Number.canonical` is the same with one zero.
* `Number.ofText?` reads a decimal with an optional exponent, or the word of an infinity or a NaN.
-/

namespace LogQuery.Number

/-- How the digits of a finite number are laid out. -/
structure DecimalStyle where
  /-- Positions of the decimal point, counted from the first digit, that are written out; another
  position is written as a power of ten. -/
  positional : Int → Bool
  /-- Whether a whole number ends in `.0`. -/
  wholeMark : Bool

/-- Every digit is written at its position. -/
def plainStyle : DecimalStyle := ⟨fun _ => true, false⟩

/-- Numbers from `0.00001` up to sixteen whole digits are written by position, with a point. -/
def jsonStyle : DecimalStyle := ⟨fun position => -5 < position && position ≤ 16, true⟩

/-- Write the digits of `digits * 10 ^ power` in a style. A power of ten has a sign. -/
def DecimalStyle.write (style : DecimalStyle) (digits : Nat) (power : Int) : String :=
  let ds := Nat.toDigits 10 digits
  let position := ds.length + power
  String.ofList <|
    if style.positional position then
      if 0 ≤ power then
        ds ++ List.replicate power.toNat '0' ++ (if style.wholeMark then ['.', '0'] else [])
      else if 0 < position then ds.take position.toNat ++ '.' :: ds.drop position.toNat
      else '0' :: '.' :: List.replicate (-position).toNat '0' ++ ds
    else
      ds.take 1 ++ (if ds.length = 1 then [] else '.' :: ds.drop 1) ++
        'e' :: (if 0 < position then ['+'] else []) ++ (toString (position - 1)).toList

/-- Write a finite number in a style. -/
def DecimalStyle.finite (style : DecimalStyle) (negative : Bool) (m : Magnitude) : String :=
  let sign := if negative then "-" else ""
  if m.isZero then sign ++ style.write 0 0
  else sign ++ style.write (shortest m).1 (shortest m).2

/-- Every digit by position, without an exponent. -/
def plain : Number → String
  | .nan => "NaN"
  | .infinite false => "inf"
  | .infinite true => "-inf"
  | .finite negative m => plainStyle.finite negative m

/-- The text of a number in a filter: both zeros are `0`. -/
def canonical : Number → String
  | .finite negative m => plainStyle.finite (negative && !m.isZero) m
  | n => n.plain

/-- A list of decimal digits as a number. -/
def digitsValue (ds : List Char) : Nat := ds.foldl (fun n d => 10 * n + (d.toNat - '0'.toNat)) 0

/-- Read a natural number: decimal digits after an optional plus sign. -/
def naturalOfText? (s : String) : Option Nat :=
  let ds := match s.toList with
    | '+' :: ds => ds
    | ds => ds
  if ds.isEmpty || !ds.all Char.isDigit then none else some (digitsValue ds)

/-- Read `e`, an optional sign and digits, up to the end. -/
def exponent? : List Char → Option Int
  | [] => some 0
  | c :: cs =>
    if c = 'e' ∨ c = 'E' then
      let (negative, ds) := match cs with
        | '-' :: ds => (true, ds)
        | '+' :: ds => (false, ds)
        | ds => (false, ds)
      if ds.isEmpty || !ds.all Char.isDigit then none
      else some (if negative then -(digitsValue ds : Int) else digitsValue ds)
    else none

/-- Read digits with an optional point among them and an optional exponent. -/
def decimal? (negative : Bool) (cs : List Char) : Option Number :=
  let (whole, rest) := cs.span Char.isDigit
  let (fraction, rest) := match rest with
    | '.' :: rest => rest.span Char.isDigit
    | rest => ([], rest)
  if whole.isEmpty && fraction.isEmpty then none
  else (exponent? rest).map fun power =>
    ofDecimal negative (digitsValue (whole ++ fraction)) (power - fraction.length)

/-- Read an unsigned number: a decimal, or `inf`, `infinity` or `nan` in any case. -/
def unsigned? (negative : Bool) (cs : List Char) : Option Number :=
  let word := String.ofList (cs.map Char.toLower)
  if word = "inf" ∨ word = "infinity" then some (.infinite negative)
  else if word = "nan" then some .nan
  else decimal? negative cs

/-- Read a number with an optional sign. -/
def ofChars? : List Char → Option Number
  | '-' :: cs => unsigned? true cs
  | '+' :: cs => unsigned? false cs
  | cs => unsigned? false cs

/-- Read a number from the whole of a text. -/
def ofText? (s : String) : Option Number := ofChars? s.toList

end LogQuery.Number

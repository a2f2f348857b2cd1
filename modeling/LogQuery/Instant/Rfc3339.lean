import LogQuery.Instant
import LogQuery.Power
import LogQuery.Text.Blank

/-!
# Instant.Rfc3339 — the canonical text of an instant

An instant is written as `2024-01-01T00:00:00Z`, with a fraction of 3, 6 or 9 digits if it needs
one. Reading accepts every date and time of RFC 3339 with any offset from UTC.

* `Instant.canonical` writes, `Instant.ofText?` reads.
* `Instant.millis` writes exactly three digits of the fraction.
-/

namespace LogQuery.Instant

/-- The value of a decimal digit. -/
def digit? (c : Char) : Option Nat := if c.isDigit then some (c.toNat - '0'.toNat) else none

/-- Read exactly `count` digits, continuing the number `value`. -/
def fixedDigits? : Nat → Nat → List Char → Option (Nat × List Char)
  | 0, value, cs => some (value, cs)
  | _ + 1, _, [] => none
  | count + 1, value, c :: cs => (digit? c).bind fun d => fixedDigits? count (10 * value + d) cs

/-- Read exactly two digits. -/
def twoDigits? (cs : List Char) : Option (Nat × List Char) := fixedDigits? 2 0 cs

/-- Read the character `c`. -/
def mark? (c : Char) : List Char → Option (List Char)
  | d :: cs => if d = c then some cs else none
  | [] => none

/-- Read digits into a number of nanoseconds: `places` more digits count, all later ones do not. -/
def nanoDigits : Nat → Nat → List Char → Nat × List Char
  | places, value, [] => (value * 10 ^ places, [])
  | places, value, c :: cs =>
    match digit? c, places with
    | some d, places + 1 => nanoDigits places (10 * value + d) cs
    | some _, 0 => nanoDigits 0 value cs
    | none, places => (value * 10 ^ places, c :: cs)

/-- Read an optional fraction of a second: a point and at least one digit. -/
def fraction? : List Char → Option (Nat × List Char)
  | '.' :: c :: cs => if c.isDigit then some (nanoDigits 9 0 (c :: cs)) else none
  | '.' :: [] => none
  | cs => some (0, cs)

/-- Read an offset from UTC in minutes: `Z`, or a sign, hours and minutes with `separator` read
between them. The sign may be the minus sign `−`. -/
def offset? (separator : List Char → Option (List Char)) (cs : List Char) :
    Option (Int × List Char) :=
  match cs with
  | [] => none
  | c :: rest =>
    if c = 'Z' ∨ c = 'z' then some (0, rest)
    else if c = '+' ∨ c = '-' ∨ c = '−' then do
      let (hours, rest) ← twoDigits? rest
      let rest ← separator rest
      let (minutes, rest) ← twoDigits? rest
      guard (minutes < 60)
      let total : Int := (hours * 60 + minutes : Nat)
      pure (if c = '+' then total else -total, rest)
    else none

/-- Read the letter or the blank between date and time. -/
def dateEnd? : List Char → Option (List Char)
  | c :: cs => if c = 'T' ∨ c = 't' ∨ c = ' ' then some cs else none
  | [] => none

/-- Read a date and time of RFC 3339. -/
def ofChars? (cs : List Char) : Option Instant := do
  let (year, cs) ← fixedDigits? 4 0 cs
  let cs ← mark? '-' cs
  let (month, cs) ← twoDigits? cs
  let cs ← mark? '-' cs
  let (day, cs) ← twoDigits? cs
  let cs ← dateEnd? cs
  let (hour, cs) ← twoDigits? cs
  let cs ← mark? ':' cs
  let (minute, cs) ← twoDigits? cs
  let cs ← mark? ':' cs
  let (second, cs) ← twoDigits? cs
  let (nano, cs) ← fraction? cs
  let (offset, cs) ← offset? (mark? ':') cs
  guard cs.isEmpty
  ofCivil? year month day hour minute second nano offset

/-- Read a date and time of RFC 3339 with white space around it. -/
def ofText? (s : String) : Option Instant := ofChars? (Text.trimChars s.toList)

/-- A number with at least `width` digits. -/
def padded (width n : Nat) : List Char :=
  let ds := Nat.toDigits 10 n
  List.replicate (width - ds.length) '0' ++ ds

/-- A year: four digits, or a sign and at least four digits outside the years `0` to `9999`. -/
def yearChars (year : Int) : List Char :=
  if 0 ≤ year ∧ year ≤ 9999 then padded 4 year.toNat
  else (if year < 0 then '-' else '+') :: padded 4 year.natAbs

/-- The text of an instant with the given fraction. The second of a leap second is `60`. -/
def chars (fraction : Nat → List Char) (i : Instant) : List Char :=
  let second := i.second % 60 + i.nano / 1000000000
  yearChars i.date.year ++ '-' :: padded 2 i.date.month ++ '-' :: padded 2 i.date.day ++
    'T' :: padded 2 (i.second / 3600) ++ ':' :: padded 2 (i.second / 60 % 60) ++
    ':' :: padded 2 second ++ fraction (i.nano % 1000000000) ++ ['Z']

/-- The fewest of 0, 3, 6 and 9 digits that hold the nanoseconds. -/
def exactFraction (nano : Nat) : List Char :=
  if nano = 0 then []
  else if nano % 1000000 = 0 then '.' :: padded 3 (nano / 1000000)
  else if nano % 1000 = 0 then '.' :: padded 6 (nano / 1000)
  else '.' :: padded 9 nano

/-- Three digits of the fraction. -/
def millisFraction (nano : Nat) : List Char := '.' :: padded 3 (nano / 1000000)

/-- The canonical text of an instant. -/
def canonical (i : Instant) : String := String.ofList (chars exactFraction i)

/-- The text of an instant to the millisecond. -/
def millis (i : Instant) : String := String.ofList (chars millisFraction i)

end LogQuery.Instant

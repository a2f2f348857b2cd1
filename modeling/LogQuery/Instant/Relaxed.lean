import LogQuery.Instant.Rfc3339

/-!
# Instant.Relaxed — timestamps as logs write them

The parts of a date and time are those of RFC 3339, but digits may be missing, white space may stand
between the parts, and the offset may be `UTC` or lack its colon.
-/

namespace LogQuery.Instant

/-- Read at least one digit and, up to `more` others, every digit that follows. -/
def someDigits? (more : Option Nat) (cs : List Char) : Option (Nat × List Char) :=
  let ds := match more with
    | some count => (cs.take (count + 1)).takeWhile Char.isDigit
    | none => cs.takeWhile Char.isDigit
  if ds.isEmpty then none
  else some (ds.foldl (fun n d => 10 * n + (d.toNat - '0'.toNat)) 0, cs.drop ds.length)

/-- Skip white space and read one or two digits. -/
def looseTwo? (cs : List Char) : Option (Nat × List Char) :=
  someDigits? (some 1) (Text.trimStart cs)

/-- Skip white space and read a year: up to four digits, or any number of them after a sign. -/
def looseYear? (cs : List Char) : Option (Int × List Char) :=
  match Text.trimStart cs with
  | '-' :: cs => (someDigits? none cs).map fun (year, rest) => (-(year : Int), rest)
  | '+' :: cs => (someDigits? none cs).map fun (year, rest) => ((year : Int), rest)
  | cs => (someDigits? (some 3) cs).map fun (year, rest) => ((year : Int), rest)

/-- Skip white space and read the character `c`. -/
def looseMark? (c : Char) (cs : List Char) : Option (List Char) := mark? c (Text.trimStart cs)

/-- Skip colons and white space. -/
def looseColon? (cs : List Char) : Option (List Char) :=
  some (cs.dropWhile fun c => c == ':' || Text.isBlank c)

/-- Read `UTC` in any case, or an offset whose minutes may follow the hours directly. -/
def looseOffset? (cs : List Char) : Option (Int × List Char) :=
  if (cs.take 3).map Char.toLower = ['u', 't', 'c'] then some (0, cs.drop 3)
  else offset? looseColon? cs

/-- Read a timestamp in the relaxed form. -/
def ofLooseChars? (cs : List Char) : Option Instant := do
  let (year, cs) ← looseYear? cs
  let cs ← looseMark? '-' cs
  let (month, cs) ← looseTwo? cs
  let cs ← looseMark? '-' cs
  let (day, cs) ← looseTwo? cs
  let cs ← dateEnd? cs
  let (hour, cs) ← looseTwo? cs
  let cs ← looseMark? ':' cs
  let (minute, cs) ← looseTwo? cs
  let cs ← looseMark? ':' cs
  let (second, cs) ← looseTwo? cs
  let (nano, cs) ← fraction? cs
  let (offset, cs) ← looseOffset? (Text.trimStart cs)
  guard (Text.trimStart cs).isEmpty
  ofCivil? year month day hour minute second nano offset

/-- Read a timestamp as a log writes it. -/
def ofLooseText? (s : String) : Option Instant := ofLooseChars? s.toList

end LogQuery.Instant

import LogQuery.Instant.Rfc3339
import LogQuery.Number.Text
import LogQuery.Text.Hex
import LogQuery.Toml

/-!
# Toml.Scalar — texts, numbers, truth values and dates in a configuration

* `basicText?`, `literalText?` read the texts of one line, `basicBlock?`, `literalBlock?` those of
  several.
* `number?` and `moment?` read numbers, and dates and times.
* `scalar?` reads any value that holds no other values.
-/

namespace LogQuery.Toml

/-! ## Lines -/

/-- White space inside a line. -/
def isBlank (c : Char) : Bool := c == ' ' || c == '\t'

/-- Skip white space inside a line. -/
def skipBlank (cs : List Char) : List Char := cs.dropWhile isBlank

/-- The characters that may stand in texts and comments. -/
def isPlain (c : Char) : Bool := c == '\t' || (' ' ≤ c && c ≤ '~') || 0x80 ≤ c.toNat

/-- Read the end of a line. -/
def newline? : List Char → Option (List Char)
  | '\n' :: cs => some cs
  | '\r' :: '\n' :: cs => some cs
  | _ => none

/-! ## Texts -/

/-- A text with the characters after it. -/
abbrev TextRest := Option (List Char × List Char)

/-- Put a character in front of a text. -/
def withChar (c : Char) : TextRest → TextRest := Option.map fun (s, rest) => (c :: s, rest)

/-- The character that `c` stands for after a backslash. -/
def escapeImage? (c : Char) : Option Char :=
  match c with
  | 'b' => some '\x08'
  | 't' => some '\t'
  | 'n' => some '\n'
  | 'f' => some '\x0c'
  | 'r' => some '\r'
  | '"' | '\\' => some c
  | _ => none

/-- The character whose code point the hexadecimal digits are. -/
def codeImage? (digits : List Char) : Option Char := do
  let values ← digits.mapM Text.hexValue?
  Text.charOf? (values.foldl (fun n d => 16 * n + d) 0)

/-- Read a text with escapes after its opening quote. -/
def basicText? : List Char → TextRest
  | [] => none
  | '"' :: cs => some ([], cs)
  | '\\' :: 'u' :: a :: b :: c :: d :: cs => do
    let image ← codeImage? [a, b, c, d]
    withChar image (basicText? cs)
  | '\\' :: 'U' :: a :: b :: c :: d :: e :: f :: g :: h :: cs => do
    let image ← codeImage? [a, b, c, d, e, f, g, h]
    withChar image (basicText? cs)
  | '\\' :: c :: cs => do
    let image ← escapeImage? c
    withChar image (basicText? cs)
  | c :: cs => if isPlain c && c != '\\' then withChar c (basicText? cs) else none

/-- Read a text without escapes after its opening quote. -/
def literalText? : List Char → TextRest
  | [] => none
  | '\'' :: cs => some ([], cs)
  | c :: cs => if isPlain c then withChar c (literalText? cs) else none

/-- Whether the backslash before these characters joins its line with the next one. -/
def joinsLines (cs : List Char) : Bool := (newline? (skipBlank cs)).isSome

/-- Read a text of several lines with escapes, after its opening quotes. Two quotes may stand
before the three that close it. After a joined line `joining` is set: white space is skipped. -/
def basicBlock? (joining : Bool) : List Char → TextRest
  | [] => none
  | '"' :: '"' :: '"' :: '"' :: '"' :: cs => some (['"', '"'], cs)
  | '"' :: '"' :: '"' :: '"' :: cs => some (['"'], cs)
  | '"' :: '"' :: '"' :: cs => some ([], cs)
  | '\\' :: 'u' :: a :: b :: c :: d :: cs => do
    let image ← codeImage? [a, b, c, d]
    withChar image (basicBlock? false cs)
  | '\\' :: 'U' :: a :: b :: c :: d :: e :: f :: g :: h :: cs => do
    let image ← codeImage? [a, b, c, d, e, f, g, h]
    withChar image (basicBlock? false cs)
  | '\r' :: '\n' :: cs =>
    if joining then basicBlock? true cs else withChar '\n' (basicBlock? false cs)
  | '\n' :: cs => if joining then basicBlock? true cs else withChar '\n' (basicBlock? false cs)
  | '\\' :: c :: cs =>
    if joinsLines (c :: cs) then basicBlock? true (c :: cs)
    else do
      let image ← escapeImage? c
      withChar image (basicBlock? false cs)
  | c :: cs =>
    if joining && isBlank c then basicBlock? true cs
    else if isPlain c && c != '\\' then withChar c (basicBlock? false cs)
    else none

/-- Read a text of several lines without escapes, after its opening quotes. Two quotes may stand
before the three that close it. -/
def literalBlock? : List Char → TextRest
  | [] => none
  | '\'' :: '\'' :: '\'' :: '\'' :: '\'' :: cs => some (['\'', '\''], cs)
  | '\'' :: '\'' :: '\'' :: '\'' :: cs => some (['\''], cs)
  | '\'' :: '\'' :: '\'' :: cs => some ([], cs)
  | '\r' :: '\n' :: cs => withChar '\n' (literalBlock? cs)
  | '\n' :: cs => withChar '\n' (literalBlock? cs)
  | c :: cs => if isPlain c then withChar c (literalBlock? cs) else none

/-- The characters without the end of a line in front. -/
def dropNewline (cs : List Char) : List Char := (newline? cs).getD cs

/-- Read a text of any kind. -/
def textAt? : List Char → TextRest
  | '"' :: '"' :: '"' :: cs => basicBlock? false (dropNewline cs)
  | '\'' :: '\'' :: '\'' :: cs => literalBlock? (dropNewline cs)
  | '"' :: cs => basicText? cs
  | '\'' :: cs => literalText? cs
  | _ => none

/-! ## Numbers -/

/-- Read the further digits of a number; a single underscore may stand between two of them. -/
def moreDigits (isDigit : Char → Bool) : List Char → List Char × List Char
  | [] => ([], [])
  | '_' :: c :: cs =>
    if isDigit c then
      let (ds, rest) := moreDigits isDigit cs
      (c :: ds, rest)
    else ([], '_' :: c :: cs)
  | c :: cs =>
    if isDigit c then
      let (ds, rest) := moreDigits isDigit cs
      (c :: ds, rest)
    else ([], c :: cs)

/-- Read digits, at least one. -/
def digits? (isDigit : Char → Bool) (cs : List Char) : Option (List Char × List Char) := do
  let first ← cs.head?
  guard (isDigit first)
  pure (moreDigits isDigit cs)

/-- Read the digits before a point; a zero stands alone. -/
def wholeDigits? : List Char → Option (List Char × List Char)
  | '0' :: cs => some (['0'], cs)
  | cs => digits? Char.isDigit cs

/-- Read the exponent of a number, if there is one. -/
def exponent? (cs : List Char) : Option (List Char × List Char) :=
  match cs with
  | e :: rest =>
    if e = 'e' ∨ e = 'E' then
      let (sign, rest) := match rest with
        | '+' :: rest => (['+'], rest)
        | '-' :: rest => (['-'], rest)
        | rest => ([], rest)
      (digits? Char.isDigit rest).map fun (ds, rest) => (e :: sign ++ ds, rest)
    else some ([], cs)
  | [] => some ([], [])

/-- The integer as a value, if it fits into 64 bits. -/
def ofInteger? (i : Int) : Option Toml :=
  if -(2 ^ 63 : Int) ≤ i ∧ i < 2 ^ 63 then some (.integer i) else none

/-- The value of the decimal with these characters, unless it is too large. -/
def ofDecimal? (cs : List Char) : Option Toml := do
  let n ← Number.ofChars? cs
  if n = .infinite false then none else some (.real n)

/-- Read a decimal number with the given sign. -/
def decimal? (sign : List Char) (cs : List Char) : Option (Toml × List Char) := do
  let (whole, rest) ← wholeDigits? cs
  match rest with
  | '.' :: rest => do
    let (fraction, rest) ← digits? Char.isDigit rest
    let (exponent, rest) ← exponent? rest
    (ofDecimal? (sign ++ whole ++ '.' :: fraction ++ exponent)).map (·, rest)
  | rest => do
    let (exponent, rest) ← exponent? rest
    if exponent.isEmpty then
      let n : Int := Number.digitsValue whole
      (ofInteger? (if sign = ['-'] then -n else n)).map (·, rest)
    else (ofDecimal? (sign ++ whole ++ exponent)).map (·, rest)

/-- Read a number with a sign that was read already. -/
def signed? (sign : List Char) : List Char → Option (Toml × List Char)
  | 'i' :: 'n' :: 'f' :: cs => some (.real (.infinite (sign = ['-'])), cs)
  | 'n' :: 'a' :: 'n' :: cs => some (.real .nan, cs)
  | cs => decimal? sign cs

/-- Read an unsigned integer whose base is a power of two. -/
def based? (base : Nat) (cs : List Char) : Option (Toml × List Char) := do
  let value? (c : Char) := (Text.hexValue? c).filter fun d => d < base
  let (ds, rest) ← digits? (fun c => (value? c).isSome) cs
  let values ← ds.mapM value?
  (ofInteger? (values.foldl (fun n d => base * n + d) 0 : Nat)).map (·, rest)

/-- Read a number. -/
def number? : List Char → Option (Toml × List Char)
  | '0' :: 'x' :: cs => based? 16 cs
  | '0' :: 'o' :: cs => based? 8 cs
  | '0' :: 'b' :: cs => based? 2 cs
  | '+' :: cs => signed? ['+'] cs
  | '-' :: cs => signed? ['-'] cs
  | cs => signed? [] cs

/-! ## Dates and times -/

/-- Read a number of two digits that is not greater than `greatest`. -/
def twoUpTo? (greatest : Nat) (cs : List Char) : Option (List Char) := do
  let (n, rest) ← Instant.twoDigits? cs
  guard (n ≤ greatest)
  pure rest

/-- Skip a fraction of a second. -/
def skipFraction : List Char → List Char
  | '.' :: c :: cs => if c.isDigit then cs.dropWhile Char.isDigit else '.' :: c :: cs
  | cs => cs

/-- Read a time of day. -/
def time? (cs : List Char) : Option (List Char) := do
  let cs ← twoUpTo? 23 cs
  let cs ← Instant.mark? ':' cs
  let cs ← twoUpTo? 59 cs
  let cs ← Instant.mark? ':' cs
  let cs ← twoUpTo? 60 cs
  pure (skipFraction cs)

/-- Read a date that the calendar has. -/
def date? (cs : List Char) : Option (List Char) := do
  let (year, cs) ← Instant.fixedDigits? 4 0 cs
  let cs ← Instant.mark? '-' cs
  let (month, cs) ← Instant.twoDigits? cs
  let cs ← Instant.mark? '-' cs
  let (day, cs) ← Instant.twoDigits? cs
  guard (1 ≤ month ∧ month ≤ 12 ∧ 1 ≤ day ∧ day ≤ daysInMonth year month)
  pure cs

/-- Read an offset from UTC. -/
def offset? : List Char → Option (List Char)
  | [] => none
  | c :: cs =>
    if c = 'Z' ∨ c = 'z' then some cs
    else if c = '+' ∨ c = '-' then do
      let cs ← twoUpTo? 23 cs
      let cs ← Instant.mark? ':' cs
      twoUpTo? 59 cs
    else none

/-- Read a time after a date, with an offset if there is one. -/
def timeAfterDate? (cs : List Char) : Option (List Char) := do
  let cs ← Instant.dateEnd? cs
  let cs ← time? cs
  pure ((offset? cs).getD cs)

/-- Read a date, a time, or both. -/
def moment? (cs : List Char) : Option (List Char) :=
  match date? cs with
  | some rest => some ((timeAfterDate? rest).getD rest)
  | none => time? cs

/-- Read a value that holds no other values. -/
def scalar? (cs : List Char) : Option (Toml × List Char) :=
  match cs with
  | 't' :: 'r' :: 'u' :: 'e' :: rest => some (.boolean true, rest)
  | 'f' :: 'a' :: 'l' :: 's' :: 'e' :: rest => some (.boolean false, rest)
  | cs =>
    match textAt? cs with
    | some (s, rest) => some (.text (String.ofList s), rest)
    | none =>
      match moment? cs with
      | some rest => some (.moment, rest)
      | none => number? cs

end LogQuery.Toml

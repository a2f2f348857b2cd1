import LogQuery.Json
import LogQuery.Keyed
import LogQuery.Power
import LogQuery.Text.Hex
import LogQuery.Text.Items
import LogQuery.Unicode.Property

/-!
# Json.Relaxed — values in the notation that people write

The notation is JSON5: bare keys, either kind of quote, commas at the end, comments, hexadecimal
numbers, signs and bare points. Members are put in the order of their keys, and of two members with
one key the later one counts.

* `Json.ofRelaxedText?` reads one value from the whole of a text.
* `Json.valueAt?` reads a value whose lists and objects are nested up to a number of levels.
-/

namespace LogQuery.Json

/-! ## White space and comments -/

/-- The characters that end a line. -/
def isLineEnd (c : Char) : Bool := c == '\n' || c == '\r' || c == '\u2028' || c == '\u2029'

/-- The characters of the category of space separators. -/
def spaceSeparators : Unicode.CodeSet := Unicode.Category.spaceSeparator.set

/-- White space in the notation: line ends, some control characters, and space separators. -/
def isSpace (c : Char) : Bool :=
  isLineEnd c || c == '\t' || c == '\x0b' || c == '\x0c' || c == '\ufeff' ||
    spaceSeparators.contains c.toNat

/-- What is being skipped between two tokens. -/
inductive Between where
  | blank
  | lineComment
  | blockComment
  deriving DecidableEq, Repr

/-- Skip white space and comments. A block comment without an end leaves its slash, which starts no
token. -/
def skipIn : Between → List Char → List Char
  | .blank, '/' :: '*' :: cs => skipIn .blockComment cs
  | .blank, '/' :: '/' :: cs => skipIn .lineComment cs
  | .blank, c :: cs => if isSpace c then skipIn .blank cs else c :: cs
  | .lineComment, c :: cs => if isLineEnd c then skipIn .blank cs else skipIn .lineComment cs
  | .blockComment, '*' :: '/' :: cs => skipIn .blank cs
  | .blockComment, _ :: cs => skipIn .blockComment cs
  | .blockComment, [] => ['/']
  | _, [] => []

/-- Skip white space and comments. -/
def skip (cs : List Char) : List Char := skipIn .blank cs

/-! ## Texts and keys -/

/-- A character of a text, or a unit of 16 bits given by its number. -/
inductive Piece where
  | char (c : Char)
  | unit (n : Nat)
  deriving DecidableEq, Repr

/-- The characters that pieces stand for. Two units may form a pair of surrogates; a surrogate
alone stands for nothing. -/
def assemble? : List Piece → Option (List Char)
  | [] => some []
  | .char c :: rest => (assemble? rest).map (c :: ·)
  | .unit n :: rest =>
    if 0xd800 ≤ n ∧ n < 0xdc00 then
      match rest with
      | .unit m :: rest =>
        if 0xdc00 ≤ m ∧ m < 0xe000 then
          (assemble? rest).map (Char.ofNat (0x10000 + (n - 0xd800) * 0x400 + (m - 0xdc00)) :: ·)
        else none
      | _ => none
    else do
      let c ← Text.charOf? n
      (assemble? rest).map (c :: ·)

/-- The value of exactly `count` hexadecimal digits at the front. -/
def hexAt? (count : Nat) (cs : List Char) : Option Nat := do
  let digits ← (cs.take count).mapM Text.hexValue?
  guard (digits.length = count)
  pure (digits.foldl (fun n d => 16 * n + d) 0)

/-- The character that `c` stands for after a backslash, unless digits have to follow it. -/
def escapeImage? (c : Char) : Option Char :=
  match c with
  | 'b' => some '\x08'
  | 'f' => some '\x0c'
  | 'n' => some '\n'
  | 'r' => some '\r'
  | 't' => some '\t'
  | 'v' => some '\x0b'
  | '0' => some '\x00'
  | c => if c.isDigit || c == 'x' || c == 'u' then none else some c

/-- Put a piece in front of what was read. -/
def withPiece (p : Piece) : List Piece × List Char → List Piece × List Char
  | (ps, rest) => (p :: ps, rest)

/-- Read the pieces of a text up to its closing quote. A backslash before the end of a line joins
the lines. -/
def textPieces? (quote : Char) : List Char → Option (List Piece × List Char)
  | [] => none
  | '\\' :: '\r' :: '\n' :: cs => textPieces? quote cs
  | '\\' :: 'x' :: a :: b :: cs => do
    let n ← hexAt? 2 [a, b]
    (textPieces? quote cs).map (withPiece (.char (Char.ofNat n)))
  | '\\' :: 'u' :: a :: b :: c :: d :: cs => do
    let n ← hexAt? 4 [a, b, c, d]
    (textPieces? quote cs).map (withPiece (.unit n))
  | '\\' :: c :: cs =>
    if isLineEnd c then textPieces? quote cs
    else do
      let image ← escapeImage? c
      (textPieces? quote cs).map (withPiece (.char image))
  | c :: cs =>
    if c = quote then some ([], cs)
    else if c = '\\' ∨ isLineEnd c then none
    else (textPieces? quote cs).map (withPiece (.char c))

/-- Read a text after its opening quote. -/
def textAt? (quote : Char) (cs : List Char) : Option (String × List Char) := do
  let (pieces, rest) ← textPieces? quote cs
  let s ← assemble? pieces
  pure (String.ofList s, rest)

/-- The letters that may start a bare key. -/
def keyLetters : Unicode.CodeSet :=
  Unicode.categoriesSet (.letterNumber :: Unicode.Category.letters)

/-- The further characters that a bare key may hold. -/
def keyMarks : Unicode.CodeSet :=
  (Unicode.categoriesSet [.nonspacingMark, .decimalNumber, .connectorPunctuation]).union
    (Unicode.listedSet "diacritic")

/-- Whether the character may start a bare key. -/
def isKeyStart (c : Char) : Bool := c == '$' || c == '_' || keyLetters.contains c.toNat

/-- Whether the character may stand inside a bare key. -/
def isKeyPart (c : Char) : Bool :=
  isKeyStart c || c == '\u200c' || c == '\u200d' || keyMarks.contains c.toNat

/-- Read the pieces of a bare key as far as it goes. -/
def keyPieces : List Char → List Piece × List Char
  | '\\' :: 'u' :: a :: b :: c :: d :: cs =>
    match hexAt? 4 [a, b, c, d] with
    | some n => withPiece (.unit n) (keyPieces cs)
    | none => ([], '\\' :: 'u' :: a :: b :: c :: d :: cs)
  | c :: cs => if isKeyPart c then withPiece (.char c) (keyPieces cs) else ([], c :: cs)
  | [] => ([], [])

/-- Read a bare key. -/
def bareKey? (cs : List Char) : Option (String × List Char) := do
  let first ← cs.head?
  guard (first = '\\' ∨ isKeyStart first)
  let (pieces, rest) := keyPieces cs
  guard !pieces.isEmpty
  let key ← assemble? pieces
  pure (String.ofList key, rest)

/-- Read the key of a member. -/
def keyAt? : List Char → Option (String × List Char)
  | '"' :: cs => textAt? '"' cs
  | '\'' :: cs => textAt? '\'' cs
  | cs => bareKey? cs

/-! ## Numbers -/

/-- Read an exponent, if there is one. -/
def exponentChars (cs : List Char) : List Char × List Char :=
  match cs with
  | e :: rest =>
    if e = 'e' ∨ e = 'E' then
      let (sign, rest) := match rest with
        | s :: rest => if s = '+' ∨ s = '-' then ([s], rest) else ([], s :: rest)
        | [] => ([], [])
      let (digits, rest) := rest.span Char.isDigit
      if digits.isEmpty then ([], cs) else (e :: sign ++ digits, rest)
    else ([], cs)
  | [] => ([], [])

/-- Read the digits before the point: a zero stands alone. -/
def wholeDigits : List Char → List Char × List Char
  | '0' :: cs => (['0'], cs)
  | cs => cs.span Char.isDigit

/-- Read the characters of an unsigned decimal, and whether it has the form of an integer. -/
def decimalChars? (cs : List Char) : Option (List Char × Bool × List Char) :=
  let (whole, rest) := wholeDigits cs
  match rest with
  | '.' :: rest =>
    let (fraction, rest) := rest.span Char.isDigit
    if whole.isEmpty && fraction.isEmpty then none
    else
      let (exponent, rest) := exponentChars rest
      some (whole ++ '.' :: fraction ++ exponent, false, rest)
  | rest =>
    if whole.isEmpty then none
    else
      let (exponent, rest) := exponentChars rest
      some (whole ++ exponent, exponent.isEmpty, rest)

/-- The integer as a value, if it fits into 64 bits. -/
def ofInteger? (i : Int) : Option Json :=
  if -(2 ^ 63 : Int) ≤ i ∧ i < 2 ^ 63 then some (.integer i) else none

/-- The number as a value, unless it is too large. -/
def ofNumber? : Number → Option Json
  | .finite negative m => some (.real negative m)
  | _ => none

/-- Read a decimal with the given sign. -/
def decimalAt? (negative : Bool) (cs : List Char) : Option (Json × List Char) := do
  let (chars, whole, rest) ← decimalChars? cs
  if whole then
    let n : Int := Number.digitsValue chars
    (ofInteger? (if negative then -n else n)).map (·, rest)
  else
    let n ← Number.ofChars? (if negative then '-' :: chars else chars)
    (ofNumber? n).map (·, rest)

/-- Read a hexadecimal number, which has at most 32 bits. -/
def hexNumber? (cs : List Char) : Option (Json × List Char) :=
  let digits := cs.takeWhile fun c => (Text.hexValue? c).isSome
  do
    guard !digits.isEmpty
    let n ← hexAt? digits.length digits
    guard (n < 2 ^ 32)
    pure (.integer n, cs.drop digits.length)

/-- The words for values that are no finite numbers. -/
def specialNumbers : List (List Char) := ["Infinity".toList, "NaN".toList]

/-- Read one of the words in front of the text. -/
def wordAt? (words : List (List Char)) (cs : List Char) : Option (List Char) :=
  (words.find? fun w => w.isPrefixOf cs).map fun w => cs.drop w.length

/-- Read a number. What is not finite is nothing; it takes no plus sign. -/
def numberAt? : List Char → Option (Json × List Char)
  | '0' :: 'x' :: cs => hexNumber? cs
  | '0' :: 'X' :: cs => hexNumber? cs
  | '+' :: cs => decimalAt? false cs
  | '-' :: cs => ((wordAt? specialNumbers cs).map (.null, ·)) <|> decimalAt? true cs
  | cs => ((wordAt? specialNumbers cs).map (.null, ·)) <|> decimalAt? false cs

/-! ## Values -/

/-- Read a value that is neither a list nor an object. -/
def scalarAt? (cs : List Char) : Option (Json × List Char) :=
  match cs with
  | '"' :: cs => (textAt? '"' cs).map fun (s, rest) => (.text s, rest)
  | '\'' :: cs => (textAt? '\'' cs).map fun (s, rest) => (.text s, rest)
  | cs =>
    ((wordAt? ["null".toList] cs).map (.null, ·)) <|>
      ((wordAt? ["true".toList] cs).map (.boolean true, ·)) <|>
      ((wordAt? ["false".toList] cs).map (.boolean false, ·)) <|> numberAt? cs

/-- Read a member of an object: a key, a colon, and a value. -/
def memberAt? (value : List Char → Option (Json × List Char)) (cs : List Char) :
    Option ((String × Json) × List Char) := do
  let (key, cs) ← keyAt? cs
  match skip cs with
  | ':' :: cs =>
    let (x, cs) ← value (skip cs)
    pure ((key, x), cs)
  | _ => none

/-- Read a value at the front, with a number of levels for lists and objects. -/
def valueAt? : Nat → List Char → Option (Json × List Char)
  | 0, _ => none
  | levels + 1, cs =>
    match cs with
    | '[' :: cs =>
      (Text.itemsAt? skip ']' true (valueAt? levels) true (cs.length + 1) cs).map
        fun (xs, rest) => (.array xs, rest)
    | '{' :: cs =>
      let item := memberAt? (valueAt? levels)
      (Text.itemsAt? skip '}' true item true (cs.length + 1) cs).map fun (members, rest) =>
        (.object (Keyed.ofList members).entries, rest)
    | cs => scalarAt? cs

/-- Read one value from the whole of a text. -/
def ofRelaxedChars? (cs : List Char) : Option Json := do
  let (x, rest) ← valueAt? (cs.length + 1) (skip cs)
  guard (skip rest).isEmpty
  pure x

/-- Read one value from the whole of a text. -/
def ofRelaxedText? (s : String) : Option Json := ofRelaxedChars? s.toList

end LogQuery.Json

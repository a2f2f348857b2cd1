import LogQuery.Number.Text

/-!
# Json — structured values and their text

A value is a scalar, a list of values, or an object, which is a list of members with different keys.
A text is written without any white space, or with every item on a line of its own.

* `Json.chars` writes a value in a layout; `Json.compact` and `Json.pretty` are its two uses.
* `Json.at?` finds the part of a value at the end of a path.
-/

namespace LogQuery

/-- A structured value. -/
inductive Json where
  | null
  | boolean (b : Bool)
  | integer (i : Int)
  /-- A number that is not an integer by its form; it is always finite. -/
  | real (negative : Bool) (magnitude : Magnitude)
  | text (s : String)
  | array (items : List Json)
  | object (members : List (String × Json))

namespace Json

/-! ## Texts and scalars -/

/-- A character inside quotes. -/
def quotedChar (c : Char) : List Char :=
  match c with
  | '"' => ['\\', '"']
  | '\\' => ['\\', '\\']
  | '\x08' => ['\\', 'b']
  | '\x0c' => ['\\', 'f']
  | '\n' => ['\\', 'n']
  | '\r' => ['\\', 'r']
  | '\t' => ['\\', 't']
  | c =>
    let n := c.toNat
    if n < 0x20 then ['\\', 'u', '0', '0', Nat.digitChar (n / 16), Nat.digitChar (n % 16)]
    else [c]

/-- A text in quotes; only quotes, backslashes and control characters are escaped. -/
def quoted (s : String) : List Char := '"' :: s.toList.flatMap quotedChar ++ ['"']

/-- A finite number that is not an integer by its form. -/
def realText (negative : Bool) (m : Magnitude) : List Char :=
  (Number.jsonStyle.finite negative m).toList

/-! ## Layouts -/

/-- How the items of lists and objects are set apart. -/
inductive Layout where
  /-- Nothing stands between the items but the comma. -/
  | tight
  /-- Every item stands on a line of its own, two blanks deeper than what holds it. -/
  | indented
  deriving DecidableEq, Repr

/-- What stands before an item, `depth` levels deep. -/
def Layout.lineBreak (layout : Layout) (depth : Nat) : List Char :=
  match layout with
  | .tight => []
  | .indented => '\n' :: List.replicate (2 * depth) ' '

/-- What stands between a key and its value. -/
def Layout.colon : Layout → List Char
  | .tight => [':']
  | .indented => [':', ' ']

mutual

/-- A value that stands `depth` levels deep. -/
def chars (layout : Layout) (depth : Nat) : Json → List Char
  | .null => "null".toList
  | .boolean b => (if b then "true" else "false").toList
  | .integer i => (toString i).toList
  | .real negative m => realText negative m
  | .text s => quoted s
  | .array items => '[' :: itemsChars layout depth items ++ [']']
  | .object members => '{' :: membersChars layout depth members ++ ['}']

/-- The items of a list that stands `depth` levels deep. -/
def itemsChars (layout : Layout) (depth : Nat) : List Json → List Char
  | [] => []
  | x :: rest =>
    layout.lineBreak (depth + 1) ++ x.chars layout (depth + 1) ++ moreItems layout depth rest

/-- The items after the first one, and the end of the list. -/
def moreItems (layout : Layout) (depth : Nat) : List Json → List Char
  | [] => layout.lineBreak depth
  | x :: rest =>
    ',' :: layout.lineBreak (depth + 1) ++ x.chars layout (depth + 1) ++
      moreItems layout depth rest

/-- The members of an object that stands `depth` levels deep. -/
def membersChars (layout : Layout) (depth : Nat) : List (String × Json) → List Char
  | [] => []
  | (key, x) :: rest =>
    layout.lineBreak (depth + 1) ++ quoted key ++ layout.colon ++
      x.chars layout (depth + 1) ++ moreMembers layout depth rest

/-- The members after the first one, and the end of the object. -/
def moreMembers (layout : Layout) (depth : Nat) : List (String × Json) → List Char
  | [] => layout.lineBreak depth
  | (key, x) :: rest =>
    ',' :: layout.lineBreak (depth + 1) ++ quoted key ++ layout.colon ++
      x.chars layout (depth + 1) ++ moreMembers layout depth rest

end

/-- The text of a value without white space. -/
def compact (j : Json) : String := String.ofList (j.chars .tight 0)

/-- The text of a value with every item on a line of its own. -/
def pretty (j : Json) : String := String.ofList (j.chars .indented 0)

/-! ## Paths -/

/-- The part of a value under a key of an object or an index of a list. -/
def part? (j : Json) (step : String) : Option Json :=
  match j with
  | .object members => members.lookup step
  | .array items => (Number.naturalOfText? step).bind fun i => items[i]?
  | _ => none

/-- The part of a value at the end of a path. -/
def at? (j : Json) (path : List String) : Option Json := path.foldlM part? j

/-! ## Building values -/

/-- A natural number as a value. -/
def nat (n : Nat) : Json := .integer n

/-- A list of texts as a value. -/
def texts (ts : List String) : Json := .array (ts.map .text)

/-- A text as a value, or nothing. -/
def text? (s : Option String) : Json := s.elim .null .text

end Json

end LogQuery

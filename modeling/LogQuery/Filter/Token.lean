import LogQuery.Filter.Error

/-!
# Filter.Token — the tokens of filters

A token with the byte offset where it starts is a `Located`.
-/

namespace LogQuery.Filter

/-- A token of a filter. -/
inductive Token where
  | leftParen
  | rightParen
  | leftBracket
  | rightBracket
  | comma
  | bang
  | connective (op : Connective)
  | comparator (op : Comparator)
  /-- A word that is no keyword: the name of a field or of a saved filter. -/
  | word (name : String)
  /-- A name after `#`. -/
  | alias (name : String)
  | text (s : String)
  | pattern (source : String)
  | number (n : Number)
  | boolean (b : Bool)
  deriving DecidableEq

namespace Token

/-- The token as it is named in messages. -/
def describe : Token → String
  | .leftParen => "'('"
  | .rightParen => "')'"
  | .leftBracket => "'['"
  | .rightBracket => "']'"
  | .comma => "','"
  | .bang => "'!'"
  | .connective op => op.label
  | .comparator op => "operator " ++ op.label
  | .word name => "'" ++ name ++ "'"
  | .alias name => "'#" ++ name ++ "'"
  | .text s => "string \"" ++ s ++ "\""
  | .pattern source => "pattern /" ++ source ++ "/"
  | .number n => "number " ++ n.canonical
  | .boolean b => booleanText b

/-- The token for a word: a keyword in any case, or a name. -/
def ofWord (word : List Char) : Token :=
  match String.ofList (word.map Char.toUpper) with
  | "AND" => .connective .and
  | "OR" => .connective .or
  | "TRUE" => .boolean true
  | "FALSE" => .boolean false
  | "CONTAINS" => .comparator .contains
  | "IN" => .comparator .isIn
  | "MATCHES" => .comparator .matches
  | _ => .word (String.ofList word)

end Token

/-- A token and the byte offset of its first character. -/
structure Located where
  token : Token
  position : Nat
  deriving DecidableEq

end LogQuery.Filter

import LogQuery.File
import LogQuery.Log.Entry

/-!
# Log.Reader — from the text of a log to its entries

A line with the separator starts an entry, and the lines after it without the separator belong to
the entry too. What is no entry is dropped.

* `groups` finds the pieces of a log that may be entries, with the numbers of their first lines.
* `entries` reads a whole log; `entriesOfBytes` needs its bytes to be UTF-8.
-/

namespace LogQuery.Log

/-- Close a line, given in reverse: a carriage return at its end is not part of it. -/
def closeLine : List Char → List Char
  | '\r' :: line => line.reverse
  | line => line.reverse

/-- The lines of a text, with `line` in reverse as the start of the first one. -/
def linesFrom (line : List Char) : List Char → List (List Char)
  | [] => if line.isEmpty then [] else [line.reverse]
  | c :: cs => if c = '\n' then closeLine line :: linesFrom [] cs else linesFrom (c :: line) cs

/-- The lines of a text. The last one need not be closed. -/
def lines (s : String) : List String := (linesFrom [] s.toList).map String.ofList

/-- Whether a line starts an entry. -/
def startsEntry (line : String) : Bool := Text.occursIn separator line.toList

/-- The pieces of a log that may be entries, with the numbers of their first lines. The first line here
has the given number, and lines without the separator continue the piece that is `pending`. -/
def groupsFrom (number : Nat) (pending : Option (Nat × String)) : List String → List (Nat × String)
  | [] => pending.toList
  | line :: rest =>
    if startsEntry line then pending.toList ++ groupsFrom (number + 1) (some (number, line)) rest
    else groupsFrom (number + 1) (pending.map fun (start, text) => (start, text ++ "\n" ++ line)) rest

/-- The pieces of a log that may be entries. Lines before the first of them belong to no piece. -/
def groups (lines : List String) : List (Nat × String) := groupsFrom 1 none lines

/-- The entry that starts at a line, if the text is one. -/
def entry? (group : Nat × String) : Option Entry := (Entry.ofText? group.1 group.2).toOption

/-- The entries of a log. -/
def entries (text : String) : List Entry := (groups (lines text)).filterMap entry?

/-- The entries of a log that is given by its bytes. -/
def entriesOfBytes (bytes : ByteArray) : Except FileError (List Entry) :=
  (textOfBytes bytes).map entries

/-- The wording for a log that cannot be read. -/
def unreadable (problem : FileError) : String := "Failed to read log: " ++ problem.text

end LogQuery.Log

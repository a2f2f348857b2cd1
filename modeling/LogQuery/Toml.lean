import LogQuery.Number

/-!
# Toml — configuration as nested tables

A document is a list of statements: pairs of a key and a value, and headers that open a table for
the pairs after them. Keys may be paths. A table can be opened once, and what one kind of statement
has made another kind can extend only in some ways; those are the origins of tables.

* `Toml.ofStatements?` builds the table of a whole document.
* `Toml.put?` puts a value at the end of a path of keys.
-/

namespace LogQuery

/-- How a table came to be. -/
inductive Toml.Origin where
  /-- Written in braces; it is complete. -/
  | braces
  /-- Opened by a header. -/
  | header
  /-- On the way to the table of a header; it may still be opened. -/
  | implied
  /-- On the way to the last key of a path before a value. -/
  | path
  deriving DecidableEq, Repr

/-- A value in a configuration. -/
inductive Toml where
  | text (s : String)
  | integer (i : Int)
  | real (n : Number)
  | boolean (b : Bool)
  /-- A date, a time, or both. -/
  | moment
  /-- A list. One that is `growing` gets a further table by each of its headers. -/
  | array (growing : Bool) (items : List Toml)
  | table (origin : Toml.Origin) (entries : List (String × Toml))

namespace Toml

/-- The entries of a table. -/
abbrev Entries := List (String × Toml)

/-! ## Changing tables -/

/-- Change what is stored under a key, with `none` for nothing. -/
def alter? (key : String) (change : Option Toml → Option Toml) : Entries → Option Entries
  | [] => (change none).map fun v => [(key, v)]
  | (k, v) :: rest =>
    if k = key then (change (some v)).map fun v => (k, v) :: rest
    else (alter? key change rest).map ((k, v) :: ·)

/-- Change the entries of the last of several tables. -/
def alterLast? (change : Entries → Option Entries) : List Toml → Option (List Toml)
  | [] => none
  | [.table origin entries] => (change entries).map fun entries => [.table origin entries]
  | item :: rest => (alterLast? change rest).map (item :: ·)

/-- Store a value under a key that is free. -/
def place? (value : Toml) : Option Toml → Option Toml
  | none => some value
  | some _ => none

/-- Put a value under a key at the end of a path. The path makes tables of its own, and it may pass
a table that is only implied, or the last table of a growing list, but not end there. -/
def put? (key : String) (value : Toml) : List String → Entries → Option Entries
  | [], entries => alter? key (place? value) entries
  | step :: steps, entries =>
    alter? step (fun
      | none => (put? key value steps []).map (.table .path)
      | some (.table .path es) => (put? key value steps es).map (.table .path)
      | some (.table .implied es) =>
        if steps.isEmpty then none else (put? key value steps es).map (.table .implied)
      | some (.array true items) =>
        if steps.isEmpty then none
        else (alterLast? (put? key value steps) items).map (.array true)
      | some _ => none) entries

/-- Change what is stored at the end of the path of a header. Tables on the way that are not there
yet are implied, and of a growing list the last table is meant. -/
def alterAt? (change : Option Toml → Option Toml) : List String → Entries → Option Entries
  | [], _ => none
  | step :: steps, entries =>
    if steps.isEmpty then alter? step change entries
    else
      alter? step (fun
        | none => (alterAt? change steps []).map (.table .implied)
        | some (.table .braces _) => none
        | some (.table origin es) => (alterAt? change steps es).map (.table origin)
        | some (.array true items) =>
          (alterLast? (alterAt? change steps) items).map (.array true)
        | some _ => none) entries

/-! ## Documents -/

/-- A key with its path, and the value. -/
structure Pair where
  path : List String
  key : String
  value : Toml

/-- The header of a table. -/
structure Header where
  path : List String
  /-- Whether the table is a further one of a list. -/
  further : Bool

/-- A statement of a document. -/
inductive Statement where
  | pair (p : Pair)
  | header (h : Header)

/-- Put pairs into a table, one after the other. -/
def fill? (pairs : List Pair) (entries : Entries) : Option Entries :=
  pairs.foldlM (fun es p => put? p.key p.value p.path es) entries

/-- The pairs before the first header, and the headers with the pairs after each of them. -/
def sections : List Statement → List Pair × List (Header × List Pair)
  | [] => ([], [])
  | .pair p :: rest =>
    let (pairs, later) := sections rest
    (p :: pairs, later)
  | .header h :: rest =>
    let (pairs, later) := sections rest
    ([], (h, pairs) :: later)

/-- Open the table of a header and fill it. -/
def open? (entries : Entries) (part : Header × List Pair) : Option Entries :=
  let (header, pairs) := part
  let change : Option Toml → Option Toml :=
    if header.further then fun
      | none => (fill? pairs []).map fun es => .array true [.table .header es]
      | some (.array true items) =>
        (fill? pairs []).map fun es => .array true (items ++ [.table .header es])
      | some _ => none
    else fun
      | none => (fill? pairs []).map (.table .header)
      | some (.table .implied es) => (fill? pairs es).map (.table .header)
      | some _ => none
  alterAt? change header.path entries

/-- The table of a document. -/
def ofStatements? (statements : List Statement) : Option Entries := do
  let (pairs, parts) := sections statements
  parts.foldlM open? (← fill? pairs [])

/-! ## Reading values -/

/-- The entries of a value that is read as a record with the given fields. A list gives the values
of the fields in their order. -/
def fields? (names : List String) : Toml → Option Entries
  | .table _ entries => some entries
  | .array _ items => some (names.zip items)
  | .moment => some []
  | _ => none

/-- The text that a value is. -/
def text? : Toml → Option String
  | .text s => some s
  | _ => none

/-- The truth value that a value is. -/
def boolean? : Toml → Option Bool
  | .boolean b => some b
  | _ => none

/-- The integer that a value is, if it lies between two bounds. -/
def integer? (least greatest : Int) : Toml → Option Int
  | .integer i => if least ≤ i ∧ i ≤ greatest then some i else none
  | _ => none

/-- The items of a list, each read with `item`. -/
def list? {α : Type} (item : Toml → Option α) : Toml → Option (List α)
  | .array _ items => items.mapM item
  | _ => none

/-- The field of a record, read with `read`; it has to be there. -/
def required? {α : Type} (entries : Entries) (name : String) (read : Toml → Option α) : Option α :=
  (entries.lookup name).bind read

/-- The field of a record, read with `read`, or a default if it is not there. -/
def optional? {α : Type} (entries : Entries) (name : String) (read : Toml → Option α)
    (default : α) : Option α :=
  match entries.lookup name with
  | some v => read v
  | none => some default

end Toml

end LogQuery

/-!
# Text.Items — items with commas between them

* `itemsAt?` reads items up to the character that closes them.
-/

namespace LogQuery.Text

/-- Read items up to the character `close`, skipping with `skip` before each token. If `empty` is
set, there may be no item at all; if `trailing` is set, the last item may have a comma after it.
`fuel` bounds the number of items. -/
def itemsAt? {α : Type} (skip : List Char → List Char) (close : Char) (trailing : Bool)
    (item : List Char → Option (α × List Char)) (empty : Bool) :
    Nat → List Char → Option (List α × List Char)
  | 0, _ => none
  | fuel + 1, cs => do
    let cs := skip cs
    if empty && cs.head? == some close then some ([], cs.drop 1)
    else
      let (x, cs) ← item cs
      let cs := skip cs
      if cs.head? = some close then some ([x], cs.drop 1)
      else if cs.head? = some ',' then
        let (xs, cs) ← itemsAt? skip close trailing item trailing fuel (cs.drop 1)
        some (x :: xs, cs)
      else none

end LogQuery.Text

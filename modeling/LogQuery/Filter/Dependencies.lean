import LogQuery.Filter.Error
import LogQuery.Filter.Registry

/-!
# Filter.Dependencies — what a filter depends on

The walk collects the fields that a filter reads and the saved filters that it refers to. When
references are checked, it follows them and reports the names that are missing and the cycles.

* `dependencies` is the result for a filter; `Walk.node` visits a part of it.
* A name being followed is not followed again, so a chain of references ends after as many steps as
  there are saved filters.
-/

namespace LogQuery.Filter

/-- What has been found so far, and the saved filters being followed, in lower case. -/
structure Walk where
  /-- The names referred to, in lower case, in increasing order. -/
  aliases : List String := []
  /-- The fields read, in increasing order. -/
  fields : List String := []
  errors : List EvalError := []
  trail : List String := []
  deriving DecidableEq

namespace Walk

/-- Record an error. -/
def addError (w : Walk) (e : EvalError) : Walk := { w with errors := w.errors ++ [e] }

/-- Visit a side of a comparison, with `follow` for the names of saved filters. -/
def operand (follow : String → Walk → Walk) : Operand → Walk → Walk
  | .field f, w => { w with fields := insertText f.name w.fields }
  | .rule name, w => follow name w
  | .literal _, w => w

mutual

/-- Visit a filter, with `follow` for the names of saved filters. -/
def node (follow : String → Walk → Walk) : Node → Walk → Walk
  | .expression _ _ first rest, w => nodes follow rest (node follow first w)
  | .comparison c, w => operand follow c.right (operand follow c.left w)
  | .search _, w => w
  | .alias name, w => follow name w

/-- Visit filters one after the other. -/
def nodes (follow : String → Walk → Walk) : List Node → Walk → Walk
  | [], w => w
  | n :: ns, w => nodes follow ns (node follow n w)

end

/-- Visit a reference to a saved filter. The number counts the references that may still be
followed below this one. -/
def reference (registry : Registry) (check : Bool) : Nat → String → Walk → Walk
  | 0, _, w => w
  | steps + 1, name, w =>
    let key := Text.lower name
    if key ∈ w.trail then w.addError (.cyclicAlias (w.trail ++ [key]))
    else
      let w := { w with aliases := insertText key w.aliases }
      if !check then w
      else
        match registry.lookup name with
        | none => w.addError (.aliasNotFound name)
        | some rule =>
          let w := { w with trail := w.trail ++ [key] }
          let w := node (reference registry check steps) rule.root w
          { w with trail := w.trail.dropLast }

end Walk

/-- Everything a filter depends on. -/
structure Dependencies where
  /-- The names of saved filters, in lower case, in increasing order. -/
  aliases : List String
  /-- The fields, in increasing order. -/
  fields : List String
  errors : List EvalError
  deriving DecidableEq

/-- What a filter depends on. If `check` is set, references are followed through the registry. -/
def dependencies (node : Node) (registry : Registry) (check : Bool) : Dependencies :=
  let w := Walk.node (Walk.reference registry check (registry.size + 1)) node {}
  ⟨w.aliases, w.fields, w.errors⟩

end LogQuery.Filter

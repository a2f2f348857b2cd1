import LogQuery.Filter.Tree
import LogQuery.Keyed

/-!
# Filter.Registry — saved filters under their names

Keys are names in lower case, and a look-up ignores the case of the name that is asked for.
-/

namespace LogQuery.Filter

/-- Saved filters under keys. -/
abbrev Registry := Keyed Rule

/-- The saved filter with a name, in any case. -/
def Registry.lookup (r : Registry) (name : String) : Option Rule := r.get? (Text.lower name)

/-- Whether a saved filter has the name. -/
def Registry.has (r : Registry) (name : String) : Bool := (r.lookup name).isSome

end LogQuery.Filter

import EntitySearch.Numeric.Double

/-!
# TOML values

The values that a settings file can hold.  A date or time is kept as its
standard text, and the entries of a table keep their order.
-/

namespace EntitySearch

/-- A value of a settings file. -/
inductive Toml
  | text (value : String)
  | integer (value : Int)
  | float (value : Numeric.Double)
  | boolean (value : Bool)
  | moment (standard : String)
  | array (elements : List Toml)
  | table (entries : List (String × Toml))
deriving Repr, Inhabited

/-- The entries of a table; other values have none. -/
def Toml.entries : Toml → List (String × Toml)
  | .table entries => entries
  | _ => []

end EntitySearch

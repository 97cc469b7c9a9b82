/-!
# Faults of a query

Why a query is refused, with the wording of each reason.
-/

namespace EntitySearch

inductive QueryFault
  | unreadable (query : String)
  | notAnInteger (text field : String)
  | noField (text : String)
  | wildcardOnNumber (field : String)
  | unusableWildcard (pattern : String)
deriving Repr, DecidableEq

def QueryFault.message : QueryFault → String
  | .unreadable query => "Failed to parse query '" ++ query ++ "'"
  | .notAnInteger text field =>
      "'" ++ text ++ "' is not a valid integer for field '" ++ field ++ "'"
  | .noField text =>
      "'" ++ text ++ "' names no field and there are no default query fields"
  | .wildcardOnNumber field =>
      "Wildcards are not supported on numeric field '" ++ field ++ "'"
  | .unusableWildcard pattern => "Invalid wildcard '" ++ pattern ++ "'"

end EntitySearch

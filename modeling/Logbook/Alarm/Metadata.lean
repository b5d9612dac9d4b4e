import Logbook.Json.Text

/-!
# Flattened metadata

Nested objects as one list of names and texts: the name of a leaf is its path, with dots between
the keys. A later leaf with the path of an earlier one takes its place.
-/

namespace Logbook

/-- The name of a key below a path; below the empty path it is the key alone. -/
def pathName (path key : String) : String :=
  if path = "" then key else path ++ "." ++ key

mutual

/-- The texts of the leaves of a value at a path. -/
def valueLeaves (path : String) : Json → List (String × String)
  | .obj fs => fieldLeaves path fs
  | .null => []
  | .arr xs => [(path, ", ".intercalate (xs.map (·.display)))]
  | v => [(path, v.display)]

/-- The texts of the leaves of the fields of an object at a path. -/
def fieldLeaves (path : String) : Fields → List (String × String)
  | [] => []
  | (k, v) :: r =>
    Keyed.putAll (valueLeaves (pathName path k) v) (fieldLeaves path r)

end

/-- The names and texts of an object; nothing for other values. -/
def metadataLeaves (data : Json) (path : String := "") : List (String × String) :=
  match data with
  | .obj fs => fieldLeaves path fs
  | _ => []

end Logbook

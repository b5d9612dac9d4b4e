import Logbook.Alarm.Metadata
import Logbook.Proofs.Keyed

/-!
# Metadata in one pass

The leaves of an object are its values that are neither objects nor `null`, at any depth and in order,
and each is reached by a list of keys. To flatten an object is to go through its leaves once and to put
the text of each under the dotted name of its keys (`metadataLeaves_onePass`): that the fields of an
object are flattened on their own and merged afterwards makes no difference, even where names collide.
-/

namespace Logbook

mutual

/-- The leaves of a value, each with the keys that lead to it. -/
def Json.leaves : Json → List (List String × Json)
  | .obj fs => Fields.leaves fs
  | .null => []
  | v => [([], v)]

/-- The leaves of the fields of an object. -/
def Fields.leaves : Fields → List (List String × Json)
  | [] => []
  | (key, v) :: r => v.leaves.map (fun leaf => (key :: leaf.1, leaf.2)) ++ Fields.leaves r

end

/-- The dotted name of a list of keys, to which empty keys in front contribute nothing. -/
def dottedName (keys : List String) : String :=
  ".".intercalate (keys.dropWhile (· = ""))

/-- A leaf as text: of a list the items, of any other leaf the value. -/
def leafText : Json → String
  | .arr xs => ", ".intercalate (xs.map (·.display))
  | v => v.display

/-- The dotted names and the texts of leaves below a path. -/
def namedTexts (path : String) (leaves : List (List String × Json)) : List (String × String) :=
  leaves.map fun leaf => (dottedName (path :: leaf.1), leafText leaf.2)

section Names

theorem dottedName_singleton (key : String) : dottedName [key] = key := by
  by_cases empty : key = "" <;> simp [dottedName, empty]

/-- A path and a key below it are named alike whether they are joined or not. -/
theorem dottedName_pathName (path key : String) (keys : List String) :
    dottedName (pathName path key :: keys) = dottedName (path :: key :: keys) := by
  by_cases empty : path = ""
  · simp [pathName, dottedName, empty]
  · simp [pathName, dottedName, empty, String.intercalate_cons_append, String.intercalate_cons_cons]

/-- The leaves of a field are those of its value, and the field's key belongs to their path. -/
theorem namedTexts_field (path key : String) (v : Json) (r : Fields) :
    namedTexts path (Fields.leaves ((key, v) :: r)) =
      namedTexts (pathName path key) v.leaves ++ namedTexts path (Fields.leaves r) := by
  simp [namedTexts, Fields.leaves, dottedName_pathName]

end Names

section Flattening

open Keyed

mutual

/-- The texts of a value are those of its leaves, put in one after the other. -/
theorem valueLeaves_eq (path : String) :
    ∀ v : Json, valueLeaves path v = putAll [] (namedTexts path v.leaves)
  | .obj fs => fieldLeaves_eq path fs
  | .null => rfl
  | .bool _ | .int _ | .float _ | .str _ | .arr _ => by
    simp [valueLeaves, Json.leaves, namedTexts, leafText, dottedName_singleton, putAll, put]

/-- The texts of the fields of an object are those of its leaves, put in one after the other. -/
theorem fieldLeaves_eq (path : String) :
    ∀ fs : Fields, fieldLeaves path fs = putAll [] (namedTexts path fs.leaves)
  | [] => rfl
  | (key, v) :: r =>
    calc fieldLeaves path ((key, v) :: r)
      _ = putAll (valueLeaves (pathName path key) v) (fieldLeaves path r) := rfl
      _ = putAll (putAll [] (namedTexts (pathName path key) v.leaves))
            (putAll [] (namedTexts path (Fields.leaves r))) := by
          rw [valueLeaves_eq (pathName path key) v, fieldLeaves_eq path r]
      _ = putAll (putAll [] (namedTexts (pathName path key) v.leaves))
            (namedTexts path (Fields.leaves r)) := putAll_putAll nodup_keys_nil _ _
      _ = putAll [] (namedTexts path (Fields.leaves ((key, v) :: r))) := by
          rw [namedTexts_field, putAll_append]

end

/-- To flatten an object is to put the texts of its leaves under their dotted names, one after the
other. So the names stand in the order in which they come first, each with the text that comes last,
and the texts are those of all leaves in their order exactly if no name comes twice. -/
theorem metadataLeaves_onePass (fs : Fields) (path : String) :
    metadataLeaves (.obj fs) path = putAll [] (namedTexts path fs.leaves) ∧
      keys (metadataLeaves (.obj fs) path) = (keys (namedTexts path fs.leaves)).eraseDups ∧
      (∀ name, (metadataLeaves (.obj fs) path).lookup name =
        (namedTexts path fs.leaves).reverse.lookup name) ∧
      (metadataLeaves (.obj fs) path = namedTexts path fs.leaves ↔
        (keys (namedTexts path fs.leaves)).Nodup) := by
  have inserted : metadataLeaves (.obj fs) path = putAll [] (namedTexts path fs.leaves) :=
    fieldLeaves_eq path fs
  refine ⟨inserted, ?_, ?_, ?_⟩
  · rw [inserted, keys_putAll]
  · intro name
    rw [inserted, lookup_putAll]
  · rw [inserted, putAll_eq_iff]

/-- An empty key in front, keys with dots in them and an empty object: the second leaf of the name
`host.name` takes the place of the first. -/
example : metadataLeaves (.obj [("", .obj [("host", .obj [("name", .str "web-01")])]), ("none", .obj []),
    ("tags", .arr [.str "a", .null]), ("host.name", .str "web-02"), ("host", .null)]) =
    [("host.name", "web-02"), ("tags", "a, None")] := by
  decide

end Flattening

end Logbook

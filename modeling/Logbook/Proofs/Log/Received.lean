import Logbook.Log.Received

/-!
# Payloads of characters

A payload whose texts consist of characters is read as what was written: a record takes its fields as
they are (`LoadedFields.payload_ofFields`), and every text that it keeps of them can be written
(`LoadedFields.isUnwritable_ofFields`).
-/

namespace Logbook

namespace Loaded

@[simp] theorem mendedText_ofText (s : String) : mendedText (ofText s) = s := by
  simp [mendedText, ofText, List.map_map, Function.comp_def, Point.mended]

@[simp] theorem isTorn_ofText (s : String) : isTorn (ofText s) = false := by
  simp [isTorn, ofText, Point.isHalf]

theorem ofText_injective : Function.Injective ofText :=
  Function.LeftInverse.injective mendedText_ofText

mutual

theorem mended_ofJson : ∀ v : Json, mended (ofJson v) = v
  | .null => rfl
  | .bool _ => rfl
  | .int _ => rfl
  | .float _ => rfl
  | .str s => congrArg Json.str (mendedText_ofText s)
  | .arr xs => congrArg Json.arr (mendedItems_ofItems xs)
  | .obj fs => congrArg Json.obj (mendedFields_ofFields fs)

theorem mendedItems_ofItems : ∀ xs : List Json, mendedItems (ofItems xs) = xs
  | [] => rfl
  | v :: r => by rw [ofItems, mendedItems, mended_ofJson v, mendedItems_ofItems r]

theorem mendedFields_ofFields : ∀ fs : Fields, mendedFields (ofFields fs) = fs
  | [] => rfl
  | (k, v) :: r => by
    rw [ofFields, mendedFields, mendedText_ofText, mended_ofJson v, mendedFields_ofFields r]

end

mutual

theorem isWhole_ofJson : ∀ v : Json, isWhole (ofJson v) = true
  | .null => rfl
  | .bool _ => rfl
  | .int _ => rfl
  | .float _ => rfl
  | .str s => by rw [ofJson, isWhole, isTorn_ofText]; rfl
  | .arr xs => wholeItems_ofItems xs
  | .obj fs => wholeFields_ofFields fs

theorem wholeItems_ofItems : ∀ xs : List Json, wholeItems (ofItems xs) = true
  | [] => rfl
  | v :: r => by rw [ofItems, wholeItems, isWhole_ofJson v, wholeItems_ofItems r]; rfl

theorem wholeFields_ofFields : ∀ fs : Fields, wholeFields (ofFields fs) = true
  | [] => rfl
  | (k, v) :: r => by
    rw [ofFields, wholeFields, isTorn_ofText, isWhole_ofJson v, wholeFields_ofFields r]
    rfl

end

end Loaded

namespace LoadedFields

open Loaded (ofText ofJson ofFields)

theorem get_ofFields (fs : Fields) (name : String) :
    get (ofFields fs) name = ofJson (fs.get name) := by
  induction fs with
  | nil => rfl
  | cons f rest ih =>
    obtain ⟨k, v⟩ := f
    have ih : ((ofFields rest).lookup (ofText name)).getD .null =
      ofJson ((rest.lookup name).getD .null) := ih
    rw [get, Fields.get, ofFields, List.lookup_cons, List.lookup_cons]
    by_cases same : name = k
    · subst same
      rw [beq_self_eq_true, beq_self_eq_true]
      rfl
    · rw [beq_false_of_ne same, beq_false_of_ne fun e => same (Loaded.ofText_injective e)]
      exact ih

/-- A record takes a whole value as it is. -/
theorem value_of_isWhole (name : List Point) {v : Loaded} (whole : v.isWhole = true) :
    value name v = v.mended := by
  cases v with
  | str s => rfl
  | _ => simp [value, whole]

theorem payload_ofFields (fs : Fields) : payload (ofFields fs) = fs := by
  induction fs with
  | nil => rfl
  | cons f rest ih =>
    obtain ⟨k, v⟩ := f
    rw [payload] at ih ⊢
    rw [ofFields, List.map_cons, ih]
    dsimp only
    rw [Loaded.mendedText_ofText, value_of_isWhole _ (Loaded.isWhole_ofJson v),
      Loaded.mended_ofJson]

theorem isTorn_ofFields (fs : Fields) (name : String) : isTorn (ofFields fs) name = false := by
  rw [isTorn, get_ofFields]
  cases fs.get name with
  | str s => exact Loaded.isTorn_ofText s
  | _ => rfl

theorem isUnwritable_ofFields (fs : Fields) : isUnwritable (ofFields fs) = false := by
  have whole : tearsDetails (ofFields fs) = false := by
    rw [tearsDetails, isTorn_ofFields, get_ofFields fs "details", Loaded.isWhole_ofJson]
    split <;> rfl
  rw [isUnwritable, whole, Bool.or_false, List.any_eq_false]
  intro name _
  rw [isTorn_ofFields]
  decide

end LoadedFields

end Logbook

import Logbook.Keyed
import Logbook.Number.Double

/-!
# JSON values

The values that payloads, details, stored documents and cached entries are made of. Integers and
floating-point numbers are told apart, and the fields of an object keep their order.
`Json.equal` is the equality that filters use: numbers of either kind and the truth values are
equal when they have the same value, and the order of fields does not count. `Json.truthy` says
which values count as given.
-/

namespace Logbook

/-- A JSON value. -/
inductive Json where
  | null
  | bool (b : Bool)
  | int (n : Int)
  | float (x : Double)
  | str (s : String)
  | arr (items : List Json)
  | obj (fields : List (String × Json))
  deriving Repr, Inhabited

/-- The fields of an object: each name once, in order. -/
abbrev Fields := List (String × Json)

/-- The value of a field, `null` where it is missing. -/
def Fields.get (fs : Fields) (name : String) : Json :=
  (fs.lookup name).getD .null

namespace Json

/-- A list of strings. -/
def strings (ss : List String) : Json :=
  .arr (ss.map .str)

/-- The value as it is or `null`. -/
def orNull {α : Type} (f : α → Json) (o : Option α) : Json :=
  o.elim .null f

/-- Does the value count as given? `null`, `false`, zeros, the empty text, list and object do
not. -/
def truthy : Json → Bool
  | .null => false
  | .bool b => b
  | .int n => n != 0
  | .float x => !x.isZero
  | .str s => s != ""
  | .arr xs => !xs.isEmpty
  | .obj fs => !fs.isEmpty

/-- The value if it counts as given, else `other`. -/
def orElse (v other : Json) : Json :=
  if v.truthy then v else other

/-- The numeric value of a number or truth value. -/
def magnitude? : Json → Option Magnitude
  | .bool b => some (.ofInt (if b then 1 else 0))
  | .int n => some (.ofInt n)
  | .float x => Magnitude.ofDouble? x
  | _ => none

/-- A number, NaN included, or a truth value. -/
def isNumber : Json → Bool
  | .bool _ | .int _ | .float _ => true
  | _ => false

/-- Are both numbers or truth values, and of the same value? -/
def sameNumber (v w : Json) : Bool :=
  match v.magnitude?, w.magnitude? with
  | some x, some y => !x.lt y && !y.lt x
  | _, _ => false

mutual

/-- Equality of values, not of their kinds: `1`, `1.0` and `true` are equal. -/
def equal : Json → Json → Bool
  | .null, .null => true
  | .str s, .str t => s == t
  | .arr xs, .arr ys => equalItems xs ys
  | .obj fs, .obj gs => fs.length == gs.length && equalFields fs gs
  | v, w => sameNumber v w

/-- `equal` on lists, item by item. -/
def equalItems : List Json → List Json → Bool
  | [], [] => true
  | x :: xs, y :: ys => equal x y && equalItems xs ys
  | _, _ => false

/-- Each of the first fields stands among the second with an equal value. -/
def equalFields : Fields → Fields → Bool
  | [], _ => true
  | (k, v) :: r, gs => ((gs.lookup k).elim false fun w => equal v w) && equalFields r gs

end

mutual

/-- Structural identity as a test. -/
def same : Json → Json → Bool
  | .null, .null => true
  | .bool a, .bool b => a == b
  | .int m, .int n => m == n
  | .float x, .float y => x == y
  | .str s, .str t => s == t
  | .arr xs, .arr ys => sameItems xs ys
  | .obj fs, .obj gs => sameFields fs gs
  | _, _ => false

/-- `same` on lists. -/
def sameItems : List Json → List Json → Bool
  | [], [] => true
  | x :: xs, y :: ys => same x y && sameItems xs ys
  | _, _ => false

/-- `same` on fields. -/
def sameFields : Fields → Fields → Bool
  | [], [] => true
  | (k, v) :: r, (l, w) :: t => k == l && (same v w && sameFields r t)
  | _, _ => false

end

mutual

theorem same_iff : ∀ (v w : Json), same v w = true ↔ v = w
  | .null, w => by cases w <;> simp [same]
  | .bool _, w => by cases w <;> simp [same]
  | .int _, w => by cases w <;> simp [same]
  | .float _, w => by cases w <;> simp [same]
  | .str _, w => by cases w <;> simp [same]
  | .arr xs, w => by cases w <;> simp [same, sameItems_iff xs]
  | .obj fs, w => by cases w <;> simp [same, sameFields_iff fs]

theorem sameItems_iff : ∀ (xs ys : List Json), sameItems xs ys = true ↔ xs = ys
  | [], ys => by cases ys <;> simp [sameItems]
  | x :: xs, ys => by
    cases ys <;> simp [sameItems, same_iff x, sameItems_iff xs]

theorem sameFields_iff : ∀ (fs gs : Fields), sameFields fs gs = true ↔ fs = gs
  | [], gs => by cases gs <;> simp [sameFields]
  | (k, v) :: r, gs => by
    rcases gs with _ | ⟨⟨l, w⟩, t⟩ <;>
      simp [sameFields, same_iff v, sameFields_iff r, and_assoc]

end

instance : DecidableEq Json := fun v w =>
  if h : same v w = true then .isTrue ((same_iff v w).1 h)
  else .isFalse fun e => h ((same_iff v w).2 e)

mutual

/-- Does the value hold an infinity or a NaN? -/
def hasUnbounded : Json → Bool
  | .float x => !x.isFinite
  | .arr xs => hasUnboundedItem xs
  | .obj fs => hasUnboundedField fs
  | _ => false

/-- `hasUnbounded` on lists. -/
def hasUnboundedItem : List Json → Bool
  | [] => false
  | x :: xs => hasUnbounded x || hasUnboundedItem xs

/-- `hasUnbounded` on fields. -/
def hasUnboundedField : Fields → Bool
  | [] => false
  | (_, v) :: r => hasUnbounded v || hasUnboundedField r

end

mutual

/-- The value with `null` in the place of every infinity and NaN. -/
def bounded : Json → Json
  | .float x => if x.isFinite then .float x else .null
  | .arr xs => .arr (boundedItems xs)
  | .obj fs => .obj (boundedFields fs)
  | v => v

/-- `bounded` on lists. -/
def boundedItems : List Json → List Json
  | [] => []
  | x :: xs => bounded x :: boundedItems xs

/-- `bounded` on fields. -/
def boundedFields : Fields → Fields
  | [] => []
  | (k, v) :: r => (k, bounded v) :: boundedFields r

end

end Json

end Logbook

import Logbook.Fault
import Logbook.Json.Basic

/-!
# Structured clauses

The conditions on the fields of a document that a search of the index has to satisfy, beside its
text query: a value, one of several values, or bounds.
-/

namespace Logbook

namespace Json

/-- Is the first of two numbers below the second? NaN is below and above nothing. -/
def isNumberBelow (v w : Json) : Except Fault Bool :=
  if v.isNumber && w.isNumber then match v.magnitude?, w.magnitude? with
    | some x, some y => .ok (x.lt y)
    | _, _ => .ok false
  else .error .wrongType

mutual

/-- Is the first value below the second? Numbers, texts and lists have an order, each among
themselves. -/
def isBelow : Json → Json → Except Fault Bool
  | .str s, .str t => .ok (s < t)
  | .arr xs, .arr ys => areBelow xs ys
  | v, w => isNumberBelow v w

/-- Is the first list below the second? The first items that differ decide, or else the lengths. -/
def areBelow : List Json → List Json → Except Fault Bool
  | [], ys => .ok !ys.isEmpty
  | _ :: _, [] => .ok false
  | x :: xs, y :: ys => if x.equal y then areBelow xs ys else isBelow x y

end

end Json

/-- A condition on one field of a document. -/
inductive Clause where
  | term (field : String) (value : Json)
  | terms (field : String) (values : List Json)
  | range (field : String) (least greatest : Option Json)
  deriving DecidableEq, Repr

namespace Clause

/-- The clause as the index receives it. -/
def toJson : Clause → Json
  | term f v => .obj [("term", .obj [(f, v)])]
  | terms f vs => .obj [("terms", .obj [(f, .arr vs)])]
  | range f least greatest =>
    .obj [("range", .obj [(f, .obj ((least.toList.map ("gte", ·)) ++
      (greatest.toList.map ("lte", ·))))])]

/-- Does a value lie on the wrong side of a bound, if there is one? -/
def outside (test : Json → Except Fault Bool) : Option Json → Except Fault Bool
  | some bound => test bound
  | none => .ok false

/-- Does a document satisfy the clause? -/
def accepts (doc : Fields) : Clause → Except Fault Bool
  | term f v => .ok ((doc.get f).equal v)
  | terms f vs => .ok (vs.any fun v => (doc.get f).equal v)
  | range f least greatest => do
    if ← outside (fun b => (doc.get f).isBelow b) least then return false
    return !(← outside (fun b => b.isBelow (doc.get f)) greatest)

/-- Does a document satisfy all clauses? -/
def acceptsAll (doc : Fields) : List Clause → Except Fault Bool
  | [] => .ok true
  | c :: r => do if ← c.accepts doc then acceptsAll doc r else return false

end Clause

end Logbook

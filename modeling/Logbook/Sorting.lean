/-!
# Stable sorting

Insertion sort by a test for "not after". Items that the test holds equal keep their order.

`trySort` sorts by a test for "before" that may fail, and that need be no order. Which pairs it
tests is then part of its result: it takes the run of items at the start that ascends or strictly
descends, and puts the items behind that run into their places by halving.
-/

namespace Logbook

variable {α : Type}

/-- A sorted list with one more item, before the items that it is not after. -/
def insertBy (le : α → α → Bool) (a : α) : List α → List α
  | [] => [a]
  | b :: r => if le a b then a :: b :: r else b :: insertBy le a r

/-- The items in order. -/
def sortBy (le : α → α → Bool) : List α → List α
  | [] => []
  | a :: r => insertBy le a (sortBy le r)

theorem insertBy_perm (le : α → α → Bool) (a : α) (xs : List α) :
    (insertBy le a xs).Perm (a :: xs) := by
  induction xs with
  | nil => exact .refl _
  | cons b r ih =>
    simp only [insertBy]
    split
    · exact .refl _
    · exact (List.Perm.cons b ih).trans (.swap a b r)

theorem sortBy_perm (le : α → α → Bool) (xs : List α) : (sortBy le xs).Perm xs := by
  induction xs with
  | nil => exact .refl _
  | cons a r ih => exact (insertBy_perm le a _).trans (ih.cons a)

@[simp] theorem length_sortBy (le : α → α → Bool) (xs : List α) :
    (sortBy le xs).length = xs.length :=
  (sortBy_perm le xs).length_eq

section TrySort

variable {ε : Type} (before : α → α → Except ε Bool)

/-- The number of items, behind the item `a`, of the run in which each is before the one in front
of it, or none is. -/
def runLength (descends : Bool) (a : α) : List α → Except ε Nat
  | [] => .ok 0
  | b :: r => do
    if (← before b a) = descends then return 1 + (← runLength descends b r) else return 0

/-- The place of an item among those of a sorted list from `low` up to below `high`, behind the
items that it is not before. -/
def placeIn (a : α) (sorted : List α) (low high : Nat) : Except ε Nat :=
  if low < high then
    let mid := low + (high - low) / 2
    match sorted[mid]? with
    | none => .ok low
    | some b => do
      if ← before a b then placeIn a sorted low mid else placeIn a sorted (mid + 1) high
  else .ok low
termination_by high - low
decreasing_by all_goals omega

/-- A sorted list with one more item. -/
def tryInsert (sorted : List α) (a : α) : Except ε (List α) := do
  let place ← placeIn before a sorted 0 sorted.length
  return sorted.take place ++ a :: sorted.drop place

/-- The items in order. -/
def trySort : List α → Except ε (List α)
  | [] => .ok []
  | [a] => .ok [a]
  | a :: b :: r => do
    let descends ← before b a
    let n := 2 + (← runLength before descends b r)
    let run := (a :: b :: r).take n
    ((a :: b :: r).drop n).foldlM (tryInsert before) (if descends then run.reverse else run)

end TrySort

end Logbook

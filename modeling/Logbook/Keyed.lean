/-!
# Pairs in order of insertion

A dictionary that remembers the order in which its keys came: a list of pairs, each key once.
`put` gives an old key its new value at the old place and a new key the last place; the value
of a key is `List.lookup`.
-/

namespace Logbook.Keyed

variable {α β : Type} [DecidableEq α]

/-- The pairs with `v` under `k`: at the place of `k` if it has one, else at the end. -/
def put (k : α) (v : β) : List (α × β) → List (α × β)
  | [] => [(k, v)]
  | (l, w) :: r => if k = l then (l, v) :: r else (l, w) :: put k v r

/-- The pairs without those under `k`. -/
def erase (k : α) (ps : List (α × β)) : List (α × β) :=
  ps.filter fun p => p.1 ≠ k

/-- The pairs of `qs` put one after the other into `ps`. -/
def putAll (ps qs : List (α × β)) : List (α × β) :=
  qs.foldl (fun acc q => put q.1 q.2 acc) ps

/-- The keys in order. -/
def keys (ps : List (α × β)) : List α :=
  ps.map (·.1)

theorem lookup_cons_eq (k l : α) (v : β) (ps : List (α × β)) :
    ((k, v) :: ps).lookup l = if l = k then some v else ps.lookup l := by
  by_cases h : l = k
  · subst h
    simp
  · have hb : (l == k) = false := by simpa using h
    simp [List.lookup_cons, hb, h]

/-- Where each key has one place, what is under a key is what stands there. -/
theorem lookup_eq_some_iff {k : α} {v : β} {ps : List (α × β)} (distinct : (keys ps).Nodup) :
    ps.lookup k = some v ↔ (k, v) ∈ ps := by
  induction ps with
  | nil => simp
  | cons p r ih =>
    obtain ⟨l, w⟩ := p
    obtain ⟨apart, rest⟩ := List.nodup_cons.1 distinct
    rw [lookup_cons_eq, List.mem_cons]
    by_cases same : k = l
    · subst same
      have absent : (k, v) ∉ r := fun mem => apart (List.mem_map.2 ⟨(k, v), mem, rfl⟩)
      simp [absent, eq_comm]
    · simp [same, ih rest]

theorem lookup_put (k l : α) (v : β) (ps : List (α × β)) :
    (put k v ps).lookup l = if l = k then some v else ps.lookup l := by
  induction ps with
  | nil => simp [put, lookup_cons_eq]
  | cons p r ih =>
    obtain ⟨m, w⟩ := p
    by_cases hk : k = m
    · subst hk
      simp only [put, if_true, lookup_cons_eq]
      split <;> simp_all
    · simp only [put, hk, if_false, lookup_cons_eq, ih]
      split
      · next h => rw [if_neg fun e => hk (e.symm.trans h)]
      · rfl

theorem keys_put (k : α) (v : β) (ps : List (α × β)) :
    keys (put k v ps) = if k ∈ keys ps then keys ps else keys ps ++ [k] := by
  induction ps with
  | nil => simp [put, keys]
  | cons p r ih =>
    obtain ⟨m, w⟩ := p
    by_cases hk : k = m
    · simp [put, keys, hk]
    · simp only [put, hk, if_false]
      simp only [keys, List.map_cons, List.mem_cons, hk, false_or] at ih ⊢
      split <;> simp_all

end Logbook.Keyed

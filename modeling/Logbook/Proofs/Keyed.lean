import Logbook.Keyed
import Mathlib.Data.List.Induction
import Mathlib.Data.List.Nodup

/-!
# Putting pairs one after the other

Where each key has one place, putting pairs is associative: it makes no difference whether some pairs
are put in one by one or first into a dictionary of their own (`Keyed.putAll_putAll`). What comes out
of an empty dictionary has the keys in the order in which they came first (`Keyed.keys_putAll`), each
with the value that came last (`Keyed.lookup_putAll`), and nothing is lost or moved exactly if no key
comes twice (`Keyed.putAll_eq_iff`).
-/

namespace Logbook.Keyed

variable {α β : Type} [DecidableEq α] {k : α} {v : β} {ps qs : List (α × β)}

section Put

/-- What is put under a new key takes the last place. -/
theorem put_of_notMem (fresh : k ∉ keys ps) (v : β) : put k v ps = ps ++ [(k, v)] := by
  induction ps with
  | nil => rfl
  | cons p r ih =>
    obtain ⟨l, w⟩ := p
    simp only [keys, List.map_cons, List.mem_cons, not_or] at fresh
    simp only [put, if_neg fresh.1, ih fresh.2, List.cons_append]

/-- What stands in a dictionary stood there before or is what was put in. -/
theorem mem_put {p : α × β} (mem : p ∈ put k v ps) : p ∈ ps ∨ p.2 = v := by
  induction ps with
  | nil =>
    rw [put, List.mem_singleton] at mem
    exact .inr (by rw [mem])
  | cons first rest ih =>
    obtain ⟨l, w⟩ := first
    unfold put at mem
    split at mem
    · rcases List.mem_cons.1 mem with rfl | later
      · exact .inr rfl
      · exact .inl (List.mem_cons_of_mem _ later)
    · rcases List.mem_cons.1 mem with rfl | later
      · exact .inl (List.mem_cons_self ..)
      · exact (ih later).imp_left (List.mem_cons_of_mem _)

/-- Of two values under one key the second stays. -/
theorem put_put (k : α) (v w : β) (ps : List (α × β)) : put k v (put k w ps) = put k v ps := by
  induction ps with
  | nil => simp [put]
  | cons p r ih =>
    obtain ⟨l, u⟩ := p
    by_cases same : k = l <;> simp [put, same, ih]

/-- A key that is there keeps its place, so it may get its value before another key or after it. -/
theorem put_comm {l : α} {u : β} (other : k ≠ l) (there : k ∈ keys ps) :
    put k v (put l u ps) = put l u (put k v ps) := by
  induction ps with
  | nil => cases there
  | cons p r ih =>
    obtain ⟨m, x⟩ := p
    by_cases first : k = m
    · subst first
      simp [put, Ne.symm other]
    · have later : k ∈ keys r := by simpa [keys, first] using there
      by_cases second : l = m <;> simp [put, first, second, ih later]

end Put

section PutAll

theorem putAll_cons (p : α × β) (ps qs : List (α × β)) :
    putAll ps (p :: qs) = putAll (put p.1 p.2 ps) qs := rfl

theorem putAll_append (ps qs rs : List (α × β)) :
    putAll ps (qs ++ rs) = putAll (putAll ps qs) rs :=
  List.foldl_append

theorem putAll_concat (ps qs : List (α × β)) (p : α × β) :
    putAll ps (qs ++ [p]) = put p.1 p.2 (putAll ps qs) :=
  putAll_append ps qs [p]

/-- A key that is there gets its value before the pairs of other keys or after them. -/
theorem put_putAll (there : k ∈ keys ps) (apart : k ∉ keys qs) :
    put k v (putAll ps qs) = putAll (put k v ps) qs := by
  induction qs generalizing ps with
  | nil => rfl
  | cons q r ih =>
    obtain ⟨l, u⟩ := q
    simp only [keys, List.map_cons, List.mem_cons, not_or] at apart
    have still : k ∈ keys (put l u ps) := by
      rw [keys_put]
      split <;> simp [there]
    rw [putAll_cons, putAll_cons, ih still apart.2, put_comm apart.1 there]

/-- To put in a dictionary with a new value is to put in the dictionary and then the value. -/
theorem putAll_put (distinct : (keys qs).Nodup) (k : α) (v : β) (ps : List (α × β)) :
    putAll ps (put k v qs) = put k v (putAll ps qs) := by
  induction qs generalizing ps with
  | nil => rfl
  | cons q r ih =>
    obtain ⟨l, u⟩ := q
    obtain ⟨apart, rest⟩ := List.nodup_cons.1 distinct
    by_cases first : k = l
    · subst first
      have there : k ∈ keys (put k u ps) := by
        rw [keys_put]
        split <;> simp_all
      rw [putAll_cons, put_putAll there apart, put_put]
      simp [put, putAll_cons]
    · simp only [put, if_neg first, putAll_cons]
      exact ih rest (put l u ps)

omit [DecidableEq α] in
theorem nodup_keys_nil : (keys ([] : List (α × β))).Nodup :=
  List.nodup_nil

theorem nodup_keys_put (distinct : (keys ps).Nodup) (k : α) (v : β) : (keys (put k v ps)).Nodup := by
  rw [keys_put]
  split
  · exact distinct
  · next fresh => exact List.nodup_append.2 ⟨distinct, List.nodup_singleton k, by grind⟩

theorem nodup_keys_putAll (distinct : (keys ps).Nodup) (qs : List (α × β)) :
    (keys (putAll ps qs)).Nodup := by
  induction qs generalizing ps with
  | nil => exact distinct
  | cons q r ih => exact ih (nodup_keys_put distinct q.1 q.2)

/-- Pairs may be put into a dictionary of their own first. -/
theorem putAll_putAll (distinct : (keys qs).Nodup) (ps rs : List (α × β)) :
    putAll ps (putAll qs rs) = putAll (putAll ps qs) rs := by
  induction rs using List.reverseRecOn with
  | nil => rfl
  | append_singleton r p ih =>
    rw [putAll_concat, putAll_concat, putAll_put (nodup_keys_putAll distinct r), ih]

/-- The keys come in the order of their first pairs. -/
theorem keys_putAll (qs : List (α × β)) : keys (putAll [] qs) = (keys qs).eraseDups := by
  induction qs using List.reverseRecOn with
  | nil => rfl
  | append_singleton r p ih =>
    have split : keys (r ++ [p]) = keys r ++ [p.1] := List.map_append
    rw [putAll_concat, keys_put, ih, split, List.eraseDups_append]
    by_cases there : p.1 ∈ keys r <;> simp [there, List.removeAll, List.eraseDups_cons]

/-- The value of a key is that of its last pair. -/
theorem lookup_putAll (qs : List (α × β)) (k : α) :
    (putAll [] qs).lookup k = qs.reverse.lookup k := by
  induction qs using List.reverseRecOn with
  | nil => rfl
  | append_singleton r p ih =>
    rw [putAll_concat, lookup_put, ih, List.reverse_concat, lookup_cons_eq]

/-- Nothing is lost or moved exactly if no key comes twice. -/
theorem putAll_eq_iff (qs : List (α × β)) : putAll [] qs = qs ↔ (keys qs).Nodup := by
  constructor
  · intro same
    have distinct := nodup_keys_putAll nodup_keys_nil qs
    rwa [same] at distinct
  · intro distinct
    induction qs using List.reverseRecOn with
    | nil => rfl
    | append_singleton r p ih =>
      have split : keys (r ++ [p]) = keys r ++ [p.1] := List.map_append
      rw [split, List.nodup_append] at distinct
      obtain ⟨before, -, apart⟩ := distinct
      have fresh : p.1 ∉ keys r := fun mem => apart p.1 mem p.1 (List.mem_singleton_self p.1) rfl
      rw [putAll_concat, ih before, put_of_notMem fresh]

end PutAll

end Logbook.Keyed

import Logbook.Proofs.Store.Stream

/-!
# The stream's account of its entries

Of all entries that have arrived the stream has the last ones, and it has enough of them
(`Stream.maxLength`) if it has given up any. Each of them waits, is held, has been settled, or has
been given up; no two have the same identifier (`Stream.Accounts`). Appending entries, giving them
up, delivering and settling them keeps the account.
-/

namespace Logbook

namespace Stream

/-- What has become of the entries that have arrived, some of which have been settled. -/
structure Accounts (s : Stream) (arrived settled : List StreamEntry) : Prop
    extends s.Numbered arrived where
  capped : s.entries = arrived ∨ maxLength ≤ s.entries.length
  whole : ∃ lost, (s.waiting ++ s.held ++ settled ++ lost).Perm arrived ∧
    ∀ e ∈ lost, e ∉ s.entries

namespace Accounts

variable {s : Stream} {arrived settled : List StreamEntry}

theorem new (entries : s.entries = []) (pending : s.pending = []) (appended : s.appended = 0) :
    s.Accounts [] [] where
  toNumbered := .new entries appended
  capped := .inl entries
  whole := by
    have waiting : s.waiting = [] := (List.append_eq_nil_iff.1 entries).2
    refine ⟨[], ?_, by simp⟩
    simp [waiting, held, pending]

/-- No entry has two standings, and none has one twice. -/
theorem nodup (h : s.Accounts arrived settled) :
    ((s.waiting ++ s.held ++ settled).map (·.id)).Nodup := by
  obtain ⟨lost, parts, -⟩ := h.whole
  have all := (parts.map (·.id)).nodup_iff.2 h.distinct
  rw [List.map_append] at all
  exact all.of_append_left

theorem nodup_held (h : s.Accounts arrived settled) : (s.held.map (·.id)).Nodup := by
  have all := h.nodup
  rw [List.map_append, List.map_append] at all
  exact all.of_append_left.of_append_right

theorem push (h : s.Accounts arrived settled) (fields : Fields) :
    (s.push fields).2.Accounts (arrived ++ [⟨entryId s.appended, fields⟩]) settled where
  toNumbered := h.toNumbered.push fields
  capped := by
    rw [entries_push, List.length_append]
    exact h.capped.imp (fun all => by rw [all]) fun enough => Nat.le_add_right_of_le enough
  whole := by
    obtain ⟨lost, parts, gone⟩ := h.whole
    refine ⟨lost, List.perm_iff_count.2 fun x => ?_, fun x mem kept => ?_⟩
    · have old := parts.count_eq x
      have waiting : (s.push fields).2.waiting =
        s.waiting ++ [⟨entryId s.appended, fields⟩] := rfl
      have still : (s.push fields).2.held = s.held := rfl
      rw [waiting, still]
      simp only [List.count_append] at old ⊢
      omega
    · rw [entries_push] at kept
      rcases List.mem_append.1 kept with old | last
      · exact gone x mem old
      · -- The new entry has an identifier of its own, so it is none of those that are lost.
        have distinct := (h.toNumbered.push fields).distinct.of_map
        exact (List.nodup_append'.1 distinct).2.2 (parts.subset (List.mem_append_right _ mem)) last

theorem trim (h : s.Accounts arrived settled) (n : Nat) : (s.trim n).Accounts arrived settled where
  toNumbered := h.toNumbered.trim n
  capped := by
    rcases s.trim_keeps n with all | enough
    · rw [all]
      exact h.capped
    · exact .inr enough
  whole := by
    obtain ⟨lost, parts, gone⟩ := h.whole
    refine ⟨lost ++ s.waiting.take (s.excess n - s.delivered.length),
      List.perm_iff_count.2 fun x => ?_, List.forall_mem_append.2 ⟨fun x mem kept => ?_, ?_⟩⟩
    · have old := parts.count_eq x
      have split := congrArg (List.count x)
        (List.take_append_drop (s.excess n - s.delivered.length) s.waiting)
      have still : (s.trim n).held = s.held := rfl
      rw [still, s.waiting_trim n]
      simp only [List.count_append] at old split ⊢
      omega
    · exact gone x mem ((s.entries_trim_suffix n).subset kept)
    · exact s.take_notMem_entries_trim n (h.distinct.of_map.sublist h.kept.sublist)

theorem deliver (h : s.Accounts arrived settled) {s' : Stream} (delivers : s.Delivers s') :
    s'.Accounts arrived settled where
  toNumbered := h.toNumbered.of_same delivers.entries delivers.appended
  capped := by
    rw [delivers.entries]
    exact h.capped
  whole := by
    obtain ⟨lost, parts, gone⟩ := h.whole
    obtain ⟨dropped, moved, missing⟩ := delivers.unsettled
    refine ⟨dropped ++ lost, List.perm_iff_count.2 fun x => ?_, ?_⟩
    · have old := parts.count_eq x
      have new := moved.count_eq x
      simp only [List.count_append] at old new ⊢
      omega
    · rw [delivers.entries]
      exact List.forall_mem_append.2 ⟨missing, gone⟩

/-- A call that changes nothing keeps the account. -/
theorem called (h : s.Accounts arrived settled) (calls : Nat) :
    Stream.Accounts { s with calls := calls } arrived settled :=
  { h with }

/-- What is no longer held has been settled. -/
theorem settle (h : s.Accounts arrived settled) (calls : Nat) (id : String) :
    Stream.Accounts { s with
      calls := calls
      pending := s.pending.filter fun p => p.entry.id ≠ id } arrived
      (settled ++ s.held.filter (·.id = id)) := by
  refine { h with whole := ?_ }
  obtain ⟨lost, parts, gone⟩ := h.whole
  refine ⟨lost, List.perm_iff_count.2 fun x => ?_, gone⟩
  have split := List.filter_append_perm (fun e : StreamEntry => decide (e.id ≠ id)) s.held
  simp only [ne_eq, decide_not, Bool.not_not] at split
  have old := parts.count_eq x
  have new := split.count_eq x
  rw [held_filter]
  simp only [List.count_append, ne_eq, decide_not] at old new ⊢
  omega

/-- An entry that the stream has no more is one of those before the last. -/
theorem mem_take_arrived (h : s.Accounts arrived settled) {e : StreamEntry} (mem : e ∈ arrived)
    (gone : e ∉ s.entries) : e ∈ arrived.take (arrived.length - maxLength) := by
  obtain ⟨before, above⟩ := h.kept
  rcases h.capped with all | enough
  · rw [all] at gone
    exact absurd mem gone
  · rw [← above] at mem ⊢
    have early : e ∈ before := (List.mem_append.1 mem).resolve_right gone
    rw [List.take_append, List.take_of_length_le (by rw [List.length_append]; omega)]
    exact List.mem_append_left _ early

end Accounts

end Stream

end Logbook

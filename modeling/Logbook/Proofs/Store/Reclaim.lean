import Logbook.Proofs.Store.Stream
import Mathlib.Data.List.Nodup

/-!
# What a claim overlooks

A claim is for the entries that have been pending for longer than some time, the overdue ones. It
looks at the first pending entries alone, it does not find those that have been given up, and it
comes to nothing if one of those that it claims cannot be decoded. `Stream.claim_complete_iff` says
that these are the only entries it overlooks, and that all other overdue entries are claimed, each
once and in the order of the stream. The pending entries stand in that order whatever calls have been
made (`Stream.Reached.inOrder`).
-/

namespace Logbook

namespace Stream

/-- No two entries have one identifier, and no two that are pending; those of the pending ones that
have not been given up stand in the order of the stream. -/
structure InOrder (s : Stream) : Prop where
  distinct : (s.entries.map (·.id)).Nodup
  apart : (s.held.map (·.id)).Nodup
  held : (s.held.filter (· ∈ s.entries)).Sublist s.entries

/-- The entries that have been pending for longer than a time, in order. -/
def overdue (now minIdle : Int) (s : Stream) : List StreamEntry :=
  (s.pending.filter fun p => minIdle < idleMs now p).map (·.entry)

/-- An overdue entry stands behind those that a claim looks at, or one that it looks at has been given
up, or cannot be decoded. -/
inductive Overlooks (now minIdle : Int) (s : Stream) : Prop where
  | behind (p : PendingEntry) : p ∈ s.pending.drop claimLimit → minIdle < idleMs now p →
    s.Overlooks now minIdle
  | givenUp (p : PendingEntry) : p ∈ s.pending.take claimLimit → minIdle < idleMs now p →
    p.entry ∉ s.entries → s.Overlooks now minIdle
  | undecodable (p : PendingEntry) (f : Fault) : p ∈ s.pending.take claimLimit →
    minIdle < idleMs now p → p.entry ∈ s.entries → s.message p.entry = .error f →
    s.Overlooks now minIdle

section Reached

/-- A stream that calls lead to from one to which nothing has come. Between them all may change but
the entries. -/
inductive Reached : Stream → Prop where
  | new {s : Stream} : s.entries = [] → s.pending = [] → s.appended = 0 → Reached s
  | push {s : Stream} (fields : Fields) : Reached s → Reached (s.push fields).2
  | trim {s : Stream} (n : Nat) : Reached s → Reached (s.trim n)
  | receive {s : Stream} (now : Int) (count : Nat) : Reached s → Reached (receive now count s).2
  | acknowledge {s : Stream} (id : String) : Reached s → Reached (s.acknowledge [id]).2
  | claim {s : Stream} (now minIdle : Int) : Reached s → Reached (s.claim now minIdle).2
  | elsewhere {s s' : Stream} : s'.delivered = s.delivered → s'.waiting = s.waiting →
    s'.pending = s.pending → s'.appended = s.appended → Reached s → Reached s'

/-- A claim moves no entry, and at most drops some that were held. -/
theorem claim_frame (now minIdle : Int) (s : Stream) :
    (s.claim now minIdle).2.waiting = s.waiting ∧ (s.claim now minIdle).2.entries = s.entries ∧
      (s.claim now minIdle).2.appended = s.appended ∧
      (s.claim now minIdle).2.held.Sublist s.held := by
  unfold claim
  cases s.fault? .listPending with
  | some f => exact ⟨rfl, rfl, rfl, .refl _⟩
  | none =>
    dsimp only
    split
    · exact ⟨rfl, rfl, rfl, .refl _⟩
    · cases s.called.fault? .claim with
      | some f => exact ⟨rfl, rfl, rfl, .refl _⟩
      | none =>
        have fewer (ids : List String) :
            (s.called.called.redeliver now minIdle ids).2.held.Sublist s.held := by
          rw [held_redeliver]
          exact List.filter_sublist
        dsimp only
        split <;> exact ⟨rfl, rfl, rfl, fewer _⟩

/-- Those that are held and those that wait stand in the order in which all have arrived. -/
structure Arranged (s : Stream) (all : List StreamEntry) : Prop extends s.Numbered all where
  unsettled : (s.held ++ s.waiting).Sublist all

namespace Arranged

variable {all : List StreamEntry} {s s' : Stream}

theorem inOrder (h : s.Arranged all) : s.InOrder := by
  have held := (List.sublist_append_left _ _).trans h.unsettled
  refine ⟨h.distinct.sublist (h.kept.sublist.map _), h.distinct.sublist (held.map _), ?_⟩
  -- What is kept is just what stands in the list of all and is kept.
  obtain ⟨before, above⟩ := h.kept
  have last : all.filter (· ∈ s.entries) = s.entries := by
    have apart := h.distinct.of_map
    rw [← above] at apart
    have none : before.filter (· ∈ s.entries) = [] := by
      rw [List.filter_eq_nil_iff]
      intro e early kept
      exact (List.nodup_append'.1 apart).2.2 early (of_decide_eq_true kept)
    rw [← above, List.filter_append, none, List.nil_append, List.filter_eq_self]
    exact fun e kept => decide_eq_true kept
  have part := held.filter (· ∈ s.entries)
  rwa [last] at part

theorem push (h : s.Arranged all) (fields : Fields) :
    (s.push fields).2.Arranged (all ++ [⟨entryId s.appended, fields⟩]) where
  toNumbered := h.toNumbered.push fields
  unsettled := by
    have longer := h.unsettled.append (List.Sublist.refl [⟨entryId s.appended, fields⟩])
    rwa [List.append_assoc] at longer

theorem trim (h : s.Arranged all) (n : Nat) : (s.trim n).Arranged all where
  toNumbered := h.toNumbered.trim n
  unsettled := by
    rw [waiting_trim]
    exact ((List.Sublist.refl _).append (List.drop_sublist _ _)).trans h.unsettled

/-- Entries that are held are held again, or no longer. -/
theorem of_held (h : s.Arranged all) (waiting : s'.waiting = s.waiting)
    (entries : s'.entries = s.entries) (appended : s'.appended = s.appended)
    (held : s'.held.Sublist s.held) : s'.Arranged all where
  toNumbered := h.toNumbered.of_same entries appended
  unsettled := by
    rw [waiting]
    exact (held.append_right _).trans h.unsettled

theorem receive (h : s.Arranged all) (now : Int) (count : Nat) :
    (Stream.receive now count s).2.Arranged all := by
  cases fault : s.fault? .read with
  | some f =>
    rw [receive_of_some now s fault]
    exact h.of_held rfl rfl rfl (.refl _)
  | none =>
    rw [receive_of_none now s fault]
    refine ⟨h.toNumbered.of_same (entries_deliver now s count) rfl, ?_⟩
    have left : (s.called.deliver now count).2.waiting = s.waiting.drop count := rfl
    dsimp only
    rw [held_deliver, left, List.append_assoc, List.take_append_drop]
    exact h.unsettled

theorem acknowledge (h : s.Arranged all) (id : String) : (s.acknowledge [id]).2.Arranged all := by
  cases fault : s.fault? .acknowledge with
  | some f =>
    rw [acknowledge_of_some s fault]
    exact h.of_held rfl rfl rfl (.refl _)
  | none =>
    rw [acknowledge_of_none s fault]
    refine h.of_held rfl rfl rfl ?_
    exact held_filter s _ id ▸ List.filter_sublist

theorem claim (h : s.Arranged all) (now minIdle : Int) :
    (s.claim now minIdle).2.Arranged all := by
  obtain ⟨waiting, entries, appended, held⟩ := claim_frame now minIdle s
  exact h.of_held waiting entries appended held

end Arranged

theorem Reached.arranged {s : Stream} (h : s.Reached) : ∃ all, s.Arranged all := by
  induction h with
  | @new s entries pending appended =>
    have waiting : s.waiting = [] := (List.append_eq_nil_iff.1 entries).2
    refine ⟨[], .new entries appended, ?_⟩
    rw [held, pending, waiting]
    exact .refl _
  | push fields _ ih => exact ih.imp' _ fun _ arranged => arranged.push fields
  | trim n _ ih => exact ih.imp fun _ arranged => arranged.trim n
  | receive now count _ ih => exact ih.imp fun _ arranged => arranged.receive now count
  | acknowledge id _ ih => exact ih.imp fun _ arranged => arranged.acknowledge id
  | claim now minIdle _ ih => exact ih.imp fun _ arranged => arranged.claim now minIdle
  | elsewhere delivered waiting pending appended _ ih =>
    refine ih.imp fun _ arranged => arranged.of_held waiting ?_ appended ?_
    · rw [entries, delivered, waiting]
      rfl
    · rw [held, pending]
      exact .refl _

theorem Reached.inOrder {s : Stream} (h : s.Reached) : s.InOrder := by
  obtain ⟨_, arranged⟩ := h.arranged
  exact arranged.inOrder

end Reached

section Claim

variable {now minIdle : Int} {s : Stream}

/-- The overdue entries among those that a claim looks at. -/
def listed (now minIdle : Int) (s : Stream) : List StreamEntry :=
  ((s.pending.take claimLimit).filter fun p => minIdle < idleMs now p).map (·.entry)

/-- The overdue entries that stand behind those that a claim looks at. -/
def beyond (now minIdle : Int) (s : Stream) : List StreamEntry :=
  ((s.pending.drop claimLimit).filter fun p => minIdle < idleMs now p).map (·.entry)

theorem listed_append_beyond (now minIdle : Int) (s : Stream) :
    s.listed now minIdle ++ s.beyond now minIdle = s.overdue now minIdle := by
  rw [listed, beyond, overdue, ← List.map_append, ← List.filter_append, List.take_append_drop]

theorem beyond_eq_nil_iff :
    s.beyond now minIdle = [] ↔ ∀ p ∈ s.pending.drop claimLimit, ¬minIdle < idleMs now p := by
  simp [beyond, List.filter_eq_nil_iff]

theorem InOrder.distinct_pending (h : s.InOrder) : (s.pending.map (·.entry.id)).Nodup := by
  have held := h.apart
  rwa [Stream.held, List.map_map] at held

theorem mem_listed {e : StreamEntry} : e ∈ s.listed now minIdle ↔
    ∃ p ∈ s.pending.take claimLimit, minIdle < idleMs now p ∧ p.entry = e := by
  simp [listed, and_assoc]

/-- The test of what is delivered again is weaker than that of what is listed, but no entry passes
it that has not been listed. -/
theorem InOrder.redelivers_iff (h : s.InOrder) {p : PendingEntry} (pending : p ∈ s.pending) :
    p.entry.id ∈ (s.listed now minIdle).map (·.id) ∧ minIdle ≤ idleMs now p ↔
      p ∈ s.pending.take claimLimit ∧ minIdle < idleMs now p := by
  constructor
  · rintro ⟨named, -⟩
    obtain ⟨e, listed, sameId⟩ := List.mem_map.1 named
    obtain ⟨q, first, late, rfl⟩ := mem_listed.1 listed
    obtain rfl := List.inj_on_of_nodup_map h.distinct_pending (List.mem_of_mem_take first) pending
      sameId
    exact ⟨first, late⟩
  · rintro ⟨first, late⟩
    exact ⟨List.mem_map_of_mem (mem_listed.2 ⟨p, first, late, rfl⟩), Int.le_of_lt late⟩

/-- A test that only the first of some different things pass picks what another test picks of them. -/
theorem filter_eq_filter_take {α : Type} {l : List α} {n : Nat} {p q : α → Bool}
    (distinct : l.Nodup) (passes : ∀ a ∈ l, p a = true ↔ a ∈ l.take n ∧ q a = true) :
    l.filter p = (l.take n).filter q := by
  have head : (l.take n).filter p = (l.take n).filter q := by
    apply List.filter_congr
    intro a first
    rw [Bool.eq_iff_iff, passes a (List.mem_of_mem_take first)]
    exact and_iff_right first
  have tail : (l.drop n).filter p = [] := by
    rw [List.filter_eq_nil_iff]
    intro a behind passed
    have first := ((passes a (List.mem_of_mem_drop behind)).1 passed).1
    rw [← List.take_append_drop n l] at distinct
    exact (List.nodup_append'.1 distinct).2.2 first behind
  calc l.filter p = (l.take n ++ l.drop n).filter p := by rw [List.take_append_drop]
    _ = (l.take n).filter p ++ (l.drop n).filter p := List.filter_append _ _
    _ = (l.take n).filter q := by rw [head, tail, List.append_nil]

/-- What is delivered again is what is listed and has not been given up. -/
theorem InOrder.redeliver_listed (h : s.InOrder) (now minIdle : Int) :
    (s.redeliver now minIdle ((s.listed now minIdle).map (·.id))).1 =
      (s.listed now minIdle).filter (· ∈ s.entries) := by
  have picked : ((s.pending.filter fun p =>
      !((s.listed now minIdle).map (·.id)).contains p.entry.id || decide (p.entry ∈ s.entries)).filter
        fun p => ((s.listed now minIdle).map (·.id)).contains p.entry.id &&
          decide (minIdle ≤ idleMs now p)) =
      ((s.pending.take claimLimit).filter fun p => minIdle < idleMs now p).filter
        fun p => p.entry ∈ s.entries := by
    rw [List.filter_filter, List.filter_filter]
    apply filter_eq_filter_take h.distinct_pending.of_map
    intro p pending
    have same : p.entry.id ∈ (s.listed now minIdle).map (·.id) ∧ minIdle ≤ idleMs now p ↔
        p ∈ s.pending.take claimLimit ∧ minIdle < idleMs now p := h.redelivers_iff pending
    simp only [Bool.and_eq_true, Bool.or_eq_true, Bool.not_eq_true', Bool.eq_false_iff, ne_eq,
      List.contains_iff_mem, decide_eq_true_eq] at same ⊢
    tauto
  unfold redeliver
  dsimp only
  rw [picked, listed, List.filter_map]
  rfl

/-- Where a call succeeds, the claim gives the messages of the entries that are listed and have not
been given up, or nothing if one of them has none. -/
theorem InOrder.fst_claim (h : s.InOrder) (listing : s.fault? .listPending = none)
    (claiming : s.called.fault? .claim = none) (now minIdle : Int) : (s.claim now minIdle).1 =
      (s.messages ((s.listed now minIdle).filter (· ∈ s.entries))).toOption.getD [] := by
  have again := h.redeliver_listed now minIdle
  unfold claim
  rw [listing]
  dsimp only
  split
  · rename_i none
    rw [List.isEmpty_iff] at none
    rw [listed, none]
    rfl
  · rw [claiming]
    dsimp only
    have ids : ((s.pending.take claimLimit).filter fun p => minIdle < idleMs now p).map
        (·.entry.id) = (s.listed now minIdle).map (·.id) := by
      rw [listed, List.map_map]
      rfl
    have same : (s.called.called.redeliver now minIdle ((s.listed now minIdle).map (·.id))).1 =
        (s.listed now minIdle).filter (· ∈ s.entries) := again
    have alike : ∀ es, (s.called.called.redeliver now minIdle
        ((s.listed now minIdle).map (·.id))).2.messages es = s.messages es := messages_congr rfl
    rw [ids, same, alike]
    cases s.messages ((s.listed now minIdle).filter (· ∈ s.entries)) <;> rfl

/-- Entries have their messages, or one of them has none. -/
theorem messages_cases (s : Stream) (es : List StreamEntry) :
    (∃ ms, s.messages es = .ok ms ∧ ∀ e ∈ es, ∃ m, s.message e = .ok m) ∨
      ∃ f, s.messages es = .error f ∧ ∃ e ∈ es, ∃ f', s.message e = .error f' := by
  induction es with
  | nil => exact .inl ⟨[], rfl, by simp⟩
  | cons e rest ih =>
    rw [messages]
    cases first : s.message e with
    | error f => exact .inr ⟨f, rfl, e, List.mem_cons_self, f, first⟩
    | ok m =>
      rcases ih with ⟨ms, others, each⟩ | ⟨f, others, e', member, failed⟩
      · rw [others]
        exact .inl ⟨m :: ms, rfl, List.forall_mem_cons.2 ⟨⟨m, first⟩, each⟩⟩
      · rw [others]
        exact .inr ⟨f, rfl, e', List.mem_cons_of_mem e member, failed⟩

/-- A claim on a healthy stream gives, in the order of the stream, the messages of different entries
that are overdue; and of all that are overdue exactly if it overlooks none. -/
theorem claim_complete_iff (h : s.InOrder) (listing : s.fault? .listPending = none)
    (claiming : s.called.fault? .claim = none) (now minIdle : Int) :
    ∃ es, List.Forall₂ Decodes es (s.claim now minIdle).1 ∧ es.Sublist (s.overdue now minIdle) ∧
      es.Sublist s.entries ∧ (es.map (·.id)).Nodup ∧
      (es = s.overdue now minIdle ↔ ¬s.Overlooks now minIdle) := by
  have prefixed := listed_append_beyond now minIdle s
  have among : (s.listed now minIdle).Sublist (s.overdue now minIdle) :=
    prefixed ▸ List.sublist_append_left _ _
  have inStream : ((s.listed now minIdle).filter (· ∈ s.entries)).Sublist s.entries :=
    ((among.trans (List.filter_sublist.map _)).filter _).trans h.held
  rw [h.fst_claim listing claiming]
  rcases s.messages_cases ((s.listed now minIdle).filter (· ∈ s.entries)) with
    ⟨ms, read, each⟩ | ⟨f, failed, e, member, f', undecodable⟩
  · rw [read]
    refine ⟨_, decodes_of_messages read, List.filter_sublist.trans among, inStream,
      h.distinct.sublist (inStream.map _), ?_⟩
    constructor
    · intro complete
      have all : (s.listed now minIdle).filter (· ∈ s.entries) = s.listed now minIdle :=
        List.filter_sublist.eq_of_length_le (complete ▸ among.length_le)
      rw [all, ← prefixed, List.self_eq_append_right, beyond_eq_nil_iff] at complete
      rw [List.filter_eq_self] at all
      rintro (⟨p, behind, late⟩ | ⟨p, first, late, gone⟩ | ⟨p, f, first, late, kept, undecodable⟩)
      · exact complete p behind late
      · exact gone (of_decide_eq_true (all p.entry (mem_listed.2 ⟨p, first, late, rfl⟩)))
      · have inside := mem_listed.2 ⟨p, first, late, rfl⟩
        obtain ⟨m, message⟩ := each p.entry (List.mem_filter.2 ⟨inside, decide_eq_true kept⟩)
        rw [undecodable] at message
        cases message
    · intro complete
      have none : s.beyond now minIdle = [] :=
        beyond_eq_nil_iff.2 fun p behind late => complete (.behind p behind late)
      rw [← prefixed, none, List.append_nil, List.filter_eq_self]
      intro e listed
      obtain ⟨p, first, late, rfl⟩ := mem_listed.1 listed
      exact decide_eq_true (not_not.1 fun gone => complete (.givenUp p first late gone))
  · rw [failed]
    refine ⟨[], .nil, List.nil_sublist _, List.nil_sublist _, List.nodup_nil, ?_⟩
    obtain ⟨listed, kept⟩ := List.mem_filter.1 member
    obtain ⟨p, first, late, rfl⟩ := mem_listed.1 listed
    constructor
    · intro none
      rw [← none, List.append_eq_nil_iff] at prefixed
      rw [prefixed.1] at listed
      cases listed
    · intro complete
      exact absurd (.undecodable p f' first late (of_decide_eq_true kept) undecodable) complete

/-- Some entries with empty objects, delivered at time 0. -/
def backlog (n : Nat) : Stream :=
  (receive 0 n (n.fold (fun _ _ s => (push [("data", .str "\x7b\x7d")] s).2) {})).2

theorem reached_backlog (n : Nat) : (backlog n).Reached := by
  apply Reached.receive
  induction n with
  | zero => exact .new rfl rfl rfl
  | succ n ih =>
    rw [Nat.fold_succ]
    exact .push _ ih

/-- Two entries are claimed after a minute and a second. -/
theorem claim_complete_two : ((backlog 2).fault? .listPending = none ∧
    (backlog 2).called.fault? .claim = none ∧
    ((backlog 2).claim 61000 60000).1.map (·.id) = ["1-0", "2-0"]) ∧
    ∃ es, List.Forall₂ Decodes es ((backlog 2).claim 61000 60000).1 ∧
      es.Sublist ((backlog 2).overdue 61000 60000) ∧ es.Sublist (backlog 2).entries ∧
      (es.map (·.id)).Nodup ∧
      (es = (backlog 2).overdue 61000 60000 ↔ ¬(backlog 2).Overlooks 61000 60000) :=
  ⟨⟨rfl, rfl, by decide +kernel⟩,
    claim_complete_iff (reached_backlog 2).inOrder rfl rfl 61000 60000⟩

/-- One entry behind a hundred is not claimed with them, and as they are fresh then, a second claim
gives nothing, though it is overdue still. -/
theorem claim_overlooks_behind : let s := backlog 101
    let s' := (s.claim 61000 60000).2
    s.Reached ∧ (s.overdue 61000 60000).length = 101 ∧ (s.claim 61000 60000).1.length = 100 ∧
      (s'.overdue 61000 60000).map (·.id) = ["101-0"] ∧ (s'.claim 61000 60000).1 = [] := by
  refine ⟨reached_backlog 101, ?_⟩
  decide +kernel

end Claim

end Stream

end Logbook

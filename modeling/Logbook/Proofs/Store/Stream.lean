import Logbook.Store.Stream
import Mathlib.Data.List.Forall2
import Mathlib.Data.List.Nodup
import Mathlib.Data.List.Perm.Basic

/-!
# The stream, call by call

Entries are numbered as they arrive, and the last of them are kept (`Stream.Numbered`). One leaves
those that wait or are held by its acknowledgement, or when it is given up (`Stream.entries_trim`,
`Stream.waiting_trim`). Reading the next messages and claiming old ones moves entries from the ones to
the others, and drops what has been given up before (`Stream.Delivers`). The messages that come of it
are those of different entries that are held (`Stream.receive_cases`, `Stream.claim_cases`).
-/

namespace Logbook

namespace Stream

/-- No two entries have the same identifier. -/
theorem entryId_injective : Function.Injective entryId := by
  intro m n same
  have numbers := Text.toString_nat_inj ((String.append_left_inj "-0").1 same)
  omega

/-- The message of an entry. -/
def Decodes (e : StreamEntry) (m : Message) : Prop :=
  decode e = .ok m

theorem Decodes.id {e : StreamEntry} {m : Message} (decoded : Decodes e m) : m.id = e.id := by
  unfold Decodes decode at decoded
  repeat' split at decoded
  all_goals cases decoded
  all_goals rfl

/-- A message that an entry is read as is that of the entry. -/
theorem decodes_of_message {s : Stream} {e : StreamEntry} {m : Message}
    (read : s.message e = .ok m) : Decodes e m := by
  unfold message at read
  cases broken : s.breakdown e with
  | some f =>
    rw [broken] at read
    cases read
  | none =>
    rw [broken] at read
    exact read

/-- Where entries can all be read, each has its message. -/
theorem decodes_of_messages {s : Stream} {es : List StreamEntry} {ms : List Message}
    (read : s.messages es = .ok ms) : List.Forall₂ Decodes es ms := by
  induction es generalizing ms with
  | nil =>
    cases read
    exact .nil
  | cons e rest ih =>
    unfold messages at read
    cases first : s.message e with
    | error f =>
      rw [first] at read
      cases read
    | ok m =>
      cases others : s.messages rest with
      | error f =>
        rw [first, others] at read
        cases read
      | ok ms' =>
        rw [first, others] at read
        cases read
        exact .cons (decodes_of_message first) (ih others)

/-- What entries are read as depends on what breaks down. -/
theorem messages_congr {s s' : Stream} (same : s'.breakdown = s.breakdown) (es : List StreamEntry) :
    s'.messages es = s.messages es := by
  induction es with
  | nil => rfl
  | cons e rest ih => rw [messages, messages, ih, message, message, same]

/-- The entries that have been delivered and not acknowledged. -/
def held (s : Stream) : List StreamEntry :=
  s.pending.map (·.entry)

theorem held_filter (s : Stream) (calls : Nat) (id : String) :
    held { s with calls := calls, pending := s.pending.filter fun p => p.entry.id ≠ id } =
      s.held.filter (·.id ≠ id) := by
  rw [held, held, List.filter_map]
  rfl

/-- An entry is appended behind the others. -/
theorem entries_push (s : Stream) (fields : Fields) :
    (s.push fields).2.entries = s.entries ++ [⟨entryId s.appended, fields⟩] :=
  (List.append_assoc _ _ _).symm

section GivingUp

variable (n : Nat) (s : Stream)

/-- How many entries are given up where it may be `n` of them. -/
def excess : Nat :=
  min n (s.entries.length - maxLength)

/-- The oldest entries are given up. -/
theorem entries_trim : (s.trim n).entries = s.entries.drop (s.excess n) := by
  rw [entries, trim, giveUp, entries, List.drop_append]
  rfl

/-- What is kept are the last entries. -/
theorem entries_trim_suffix : (s.trim n).entries <:+ s.entries := by
  rw [entries_trim]
  exact List.drop_suffix _ _

/-- Those that wait are given up last. -/
theorem waiting_trim :
    (s.trim n).waiting = s.waiting.drop (s.excess n - s.delivered.length) :=
  rfl

/-- An entry is given up only if enough others are kept. -/
theorem trim_keeps : (s.trim n).entries = s.entries ∨ maxLength ≤ (s.trim n).entries.length := by
  rw [entries_trim, List.length_drop, excess]
  rcases Nat.lt_or_ge maxLength s.entries.length with more | few
  · right
    omega
  · left
    rw [Nat.sub_eq_zero_of_le few, Nat.min_zero, List.drop_zero]

/-- Of those that wait none is given up, or more wait than are kept, and enough still do. -/
theorem waiting_trim_cases : (s.trim n).waiting = s.waiting ∨
    maxLength < s.waiting.length ∧ maxLength ≤ (s.trim n).waiting.length := by
  rw [waiting_trim, List.length_drop, excess, entries, List.length_append]
  rcases Nat.lt_or_ge maxLength s.waiting.length with more | few
  · right
    omega
  · left
    have none : min n (s.delivered.length + s.waiting.length - maxLength) -
        s.delivered.length = 0 := by omega
    rw [none, List.drop_zero]

/-- Those that waited and wait no longer have been given up, where all entries are different. -/
theorem take_notMem_entries_trim (distinct : s.entries.Nodup) :
    ∀ e ∈ s.waiting.take (s.excess n - s.delivered.length), e ∉ (s.trim n).entries := by
  intro e gone kept
  rw [entries_trim] at kept
  have old : e ∈ s.entries.take (s.excess n) := by
    rw [entries, List.take_append]
    exact List.mem_append_right _ gone
  rw [← List.take_append_drop (s.excess n) s.entries] at distinct
  exact (List.nodup_append'.1 distinct).2.2 old kept

end GivingUp

/-- The entries that have arrived are numbered, and the last of them are kept. -/
structure Numbered (s : Stream) (arrived : List StreamEntry) : Prop where
  ids : arrived.map (·.id) = (List.range s.appended).map entryId
  kept : s.entries <:+ arrived

namespace Numbered

variable {s s' : Stream} {arrived : List StreamEntry}

/-- Nothing has come to a new stream. -/
theorem new (entries : s.entries = []) (appended : s.appended = 0) : s.Numbered [] where
  ids := by simp [appended]
  kept := by simp [entries]

theorem distinct (h : s.Numbered arrived) : (arrived.map (·.id)).Nodup := by
  rw [h.ids]
  exact List.nodup_range.map entryId_injective

theorem push (h : s.Numbered arrived) (fields : Fields) :
    (s.push fields).2.Numbered (arrived ++ [⟨entryId s.appended, fields⟩]) := by
  constructor
  · simp only [Stream.push, List.map_append, List.map_cons, List.map_nil, h.ids, List.range_succ]
  · obtain ⟨before, above⟩ := h.kept
    exact ⟨before, by rw [entries_push, ← above, List.append_assoc]⟩

theorem trim (h : s.Numbered arrived) (n : Nat) : (s.trim n).Numbered arrived where
  ids := h.ids
  kept := (s.entries_trim_suffix n).trans h.kept

/-- It makes no difference which of the entries have been delivered. -/
theorem of_same (h : s.Numbered arrived) (entries : s'.entries = s.entries)
    (appended : s'.appended = s.appended) : s'.Numbered arrived where
  ids := by rw [appended, h.ids]
  kept := by
    rw [entries]
    exact h.kept

end Numbered

/-- Entries may have been delivered, once more or for the first time, and some that were given up
before are not held any longer. Nothing else has become of any. -/
structure Delivers (s s' : Stream) : Prop where
  entries : s'.entries = s.entries
  unsettled : ∃ gone, (s'.waiting ++ s'.held ++ gone).Perm (s.waiting ++ s.held) ∧
    ∀ e ∈ gone, e ∉ s.entries
  outage : s'.outage = s.outage
  appended : s'.appended = s.appended

/-- Nothing has become of the entries. -/
theorem Delivers.of_same {s s' : Stream} (entries : s'.entries = s.entries)
    (waiting : s'.waiting = s.waiting) (held : s'.held = s.held) (outage : s'.outage = s.outage)
    (appended : s'.appended = s.appended) : s.Delivers s' := by
  refine ⟨entries, ⟨[], ?_, by simp⟩, outage, appended⟩
  rw [waiting, held, List.append_nil]

section Calls

variable (now : Int) (s : Stream)

theorem receive_of_some {f : Fault} (fault : s.fault? .read = some f) (count : Nat) :
    receive now count s = (.ok [], s.called) := by
  simp [receive, Act.bind_apply, fault]

theorem receive_of_none (well : s.fault? .read = none) (count : Nat) :
    receive now count s =
      (s.messages (s.waiting.take count), (s.called.deliver now count).2) := by
  have alike : ∀ es, (s.called.deliver now count).2.messages es = s.messages es :=
    messages_congr rfl
  have taken : (s.called.deliver now count).1 = s.waiting.take count := rfl
  simp only [receive, Act.bind_apply, Act.get_apply, Act.set_apply, well, alike, taken]
  cases s.messages (s.waiting.take count) <;> rfl

theorem entries_deliver (count : Nat) : (s.called.deliver now count).2.entries = s.entries := by
  simp only [called, deliver, entries, List.append_assoc, List.take_append_drop]

theorem held_deliver (count : Nat) :
    (s.called.deliver now count).2.held = s.held ++ s.waiting.take count := by
  simp [deliver, called, held, List.map_append, List.map_map, Function.comp_def]

theorem deliver_delivers (count : Nat) : s.Delivers (s.called.deliver now count).2 where
  entries := entries_deliver now s count
  unsettled := by
    refine ⟨[], ?_, by simp⟩
    have left : (s.called.deliver now count).2.waiting = s.waiting.drop count := rfl
    rw [held_deliver, left, List.append_nil]
    refine List.perm_append_comm.trans ?_
    rw [List.append_assoc, List.take_append_drop]
    exact List.perm_append_comm
  outage := rfl
  appended := rfl

/-- Reading fails, or its messages are those of entries that are held from then on. -/
theorem receive_cases (count : Nat) : ∃ s', s.Delivers s' ∧
    ((∃ f, receive now count s = (.error f, s')) ∨
      ∃ ms es, receive now count s = (.ok ms, s') ∧ es.Sublist s'.held ∧
        List.Forall₂ Decodes es ms) := by
  cases fault : s.fault? .read with
  | some f =>
    refine ⟨s.called, .of_same rfl rfl rfl rfl rfl, .inr ⟨[], [], ?_, List.nil_sublist _, .nil⟩⟩
    exact receive_of_some now s fault count
  | none =>
    refine ⟨_, deliver_delivers now s count, ?_⟩
    cases read : s.messages (s.waiting.take count) with
    | error f => exact .inl ⟨f, by rw [receive_of_none now s fault, read]⟩
    | ok ms =>
      refine .inr ⟨ms, s.waiting.take count, by rw [receive_of_none now s fault, read], ?_,
        decodes_of_messages read⟩
      rw [held_deliver]
      exact List.sublist_append_right _ _

/-- Delivering entries once more changes no more than the moments of their deliveries, and drops
those that have been given up. -/
theorem held_redeliver (minIdle : Int) (ids : List String) : (s.redeliver now minIdle ids).2.held =
    s.held.filter fun e => !ids.contains e.id || decide (e ∈ s.entries) := by
  rw [held, held, List.filter_map, redeliver, List.map_map]
  refine List.map_congr_left fun p _ => ?_
  dsimp only [Function.comp]
  split <;> rfl

/-- What is delivered once more is held. -/
theorem redeliver_sublist (minIdle : Int) (ids : List String) :
    (s.redeliver now minIdle ids).1.Sublist (s.redeliver now minIdle ids).2.held := by
  rw [held_redeliver, held, List.filter_map]
  exact List.filter_sublist.map _

theorem redeliver_delivers (minIdle : Int) (ids : List String) :
    s.Delivers (s.redeliver now minIdle ids).2 where
  entries := rfl
  unsettled := by
    refine ⟨s.held.filter fun e => !(!ids.contains e.id || decide (e ∈ s.entries)), ?_, ?_⟩
    · rw [held_redeliver, List.append_assoc]
      exact (List.filter_append_perm _ s.held).append_left _
    · intro e gone
      have dropped := (List.mem_filter.1 gone).2
      simp only [Bool.not_or, Bool.and_eq_true, Bool.not_eq_true', decide_eq_false_iff_not] at dropped
      exact dropped.2
  outage := rfl
  appended := rfl

/-- The messages that are claimed are those of entries that are held. -/
theorem claim_cases (minIdle : Int) : s.Delivers (s.claim now minIdle).2 ∧
    ∃ es, es.Sublist (s.claim now minIdle).2.held ∧
      List.Forall₂ Decodes es (s.claim now minIdle).1 := by
  have idle (s' : Stream) : ∃ es, es.Sublist s'.held ∧ List.Forall₂ Decodes es [] :=
    ⟨[], List.nil_sublist _, .nil⟩
  have same (calls : Nat) : s.Delivers { s with calls := calls } := .of_same rfl rfl rfl rfl rfl
  unfold claim
  cases s.fault? .listPending with
  | some f => exact ⟨same _, idle _⟩
  | none =>
    dsimp only
    split
    · exact ⟨same _, idle _⟩
    · cases s.called.fault? .claim with
      | some f => exact ⟨same _, idle _⟩
      | none =>
        generalize ((s.pending.take claimLimit).filter fun p => minIdle < idleMs now p).map
          (·.entry.id) = ids
        have again : s.Delivers (s.called.called.redeliver now minIdle ids).2 := by
          have delivers := redeliver_delivers now s.called.called minIdle ids
          exact ⟨delivers.entries, delivers.unsettled, delivers.outage, delivers.appended⟩
        have among := redeliver_sublist now s.called.called minIdle ids
        dsimp only
        cases read : (s.called.called.redeliver now minIdle ids).2.messages
            (s.called.called.redeliver now minIdle ids).1 with
        | error f => exact ⟨again, idle _⟩
        | ok ms => exact ⟨again, _, among, decodes_of_messages read⟩

/-- An append that does not fail pushes its entry, and may give up old ones. -/
theorem snd_append (well : s.fault? .append = none) (fields : Fields) :
    (append fields s).2 = (s.called.push fields).2.trim (s.surplus s.calls) := by
  simp [append, Act.bind_apply, well]

theorem acknowledge_of_some {f : Fault} (fault : s.fault? .acknowledge = some f) (id : String) :
    s.acknowledge [id] = (0, s.called) := by
  simp [acknowledge, fault]

/-- An entry is not held any longer once it has been acknowledged. -/
theorem acknowledge_of_none (well : s.fault? .acknowledge = none) (id : String) :
    (s.acknowledge [id]).2 =
      { s.called with pending := s.pending.filter fun p => p.entry.id ≠ id } := by
  simp [acknowledge, well]

end Calls

end Stream

end Logbook

import Logbook.Proofs.Site.History
import Logbook.Proofs.Site.Shift
import Logbook.Proofs.Store.Accounts

/-!
# What becomes of the entries of the stream

Whatever happens while a worker is at work, each entry waits, is pending or has been acknowledged,
or the stream has given it up, for which at least `Stream.maxLength` have to be appended after it.
Nothing but what an attempt to store its log came to lets an entry be acknowledged; and if no
acknowledgement fails no entry is stored twice (`Shift.run_conserved`). What carries every run is
that the entries which wait, are held, have been settled or have been given up are together those
ever appended (`Stream.Accounts`, as a part of `Shift.Sound`), and, where acknowledgements do not
fail, that the records which have come are those of the entries settled as stored (`Shift.Exact`).
-/

namespace Logbook

namespace Site

/-- A log is not stored, and then at most identifiers have been used up; or its record is one more. -/
theorem ingestUnless_cases (failure : Option (Fault × Nat)) (payload : LoadedFields) (s : Site) :
    (∃ f drawn, ingestUnless failure payload s = (.error f, { s with drawn := drawn })) ∨
      ∃ row drawn index desk, row.IsRecordOf payload.payload ∧ row ∉ s.primary.records ∧
        ingestUnless failure payload s = (.ok (), { s with
          drawn := drawn
          primary := { s.primary with records := s.primary.records ++ [row] }
          index := index
          desk := desk }) := by
  cases failure with
  | some failure => exact .inl ⟨failure.1, _, rfl⟩
  | none => exact ingestQueued_cases payload s

end Site

namespace Shift

/-- A verdict on a message is explained by what has happened: a message is unreadable if it has no
data, and its log has been stored if a record of it has come with an ingestion call for it, or has
been rejected if such a call ended so. -/
def Explains (w : Shift) (m : Message) : Verdict → Prop
  | .unreadable => m.data = none
  | .stored => ∃ payload row, m.data = some payload ∧ row.IsRecordOf payload.payload ∧
    (m.id, row) ∈ w.inserted
  | .rejected f => f.isFinal ∧ (∃ payload, m.data = some payload) ∧
    ∃ i ∈ w.ingestions, i.id = m.id ∧ i.result = .error f
  | .failed _ => True

theorem Explains.mono {w w' : Shift} {m : Message} {v : Verdict} (h : w.Explains m v)
    (more : w.ingestions ⊆ w'.ingestions) : w'.Explains m v := by
  cases v with
  | unreadable => exact h
  | stored =>
    obtain ⟨payload, row, data, record, mem⟩ := h
    obtain ⟨i, inside, rows⟩ := List.mem_flatMap.1 mem
    exact ⟨payload, row, data, record, List.mem_flatMap.2 ⟨i, more inside, rows⟩⟩
  | rejected f =>
    obtain ⟨final, data, i, inside, ended⟩ := h
    exact ⟨final, data, i, more inside, ended⟩
  | failed f => trivial

theorem newRows_self (db : Primary) : newRows db db = [] := by
  rw [newRows, List.filter_eq_nil_iff]
  intro row mem new
  exact of_decide_eq_true new mem

theorem newRows_append {db : Primary} {row : LogEntry} (fresh : row ∉ db.records) :
    newRows db { db with records := db.records ++ [row] } = [row] := by
  have old := newRows_self db
  unfold newRows at old ⊢
  rw [List.filter_append, old]
  simp [fresh]

theorem released_of_held {before after : Stream} (same : after.held = before.held) :
    released before after = [] := by
  rw [released, List.filter_eq_nil_iff, same]
  intro e mem gone
  exact of_decide_eq_true gone mem

theorem released_of_filter {before after : Stream} {id : String}
    (left : after.held = before.held.filter (·.id ≠ id)) :
    released before after = before.held.filter (·.id = id) := by
  rw [released, left]
  refine List.filter_congr fun e mem => ?_
  simp [mem]

theorem inserted_concat {w w' : Shift} {i : Ingestion}
    (more : w'.ingestions = w.ingestions ++ [i]) :
    w'.inserted = w.inserted ++ i.rows.map (i.id, ·) := by
  simp [inserted, more]

/-- What holds while a worker is at work at a site that was `s` at first. -/
structure Sound (s : Site) (w : Shift) : Prop where
  outage : w.site.stream.outage = s.stream.outage
  account : w.site.stream.Accounts w.arrived (w.settled.map (·.1))
  inHand : ∃ es, es.Sublist w.site.stream.held ∧ List.Forall₂ Stream.Decodes es w.phase.messages
  reached : ∀ m v rest, w.phase = .concluding m v rest → w.Explains m v
  settled : ∀ p ∈ w.settled, (∀ f, p.2 ≠ .failed f) ∧
    ∃ m, Stream.Decodes p.1 m ∧ w.Explains m p.2
  records : w.site.primary.records = s.primary.records ++ w.inserted.map (·.2)

namespace Sound

variable {s : Site} {w : Shift}

/-- An entry is appended, and old ones may be given up for it. -/
theorem append (h : Sound s w) (fields : Fields) (surplus : Nat) :
    Sound s (w.take (.append fields surplus)) :=
  { h with account := (h.account.push fields).trim surplus }

/-- Entries are delivered, and the worker takes up messages of some that are held. -/
theorem deliver (h : Sound s w) {stream : Stream} {phase : Phase} {es : List StreamEntry}
    (delivers : w.site.stream.Delivers stream) (among : es.Sublist stream.held)
    (decoded : List.Forall₂ Stream.Decodes es phase.messages)
    (open' : ∀ m v rest, phase ≠ .concluding m v rest) :
    Sound s { w with site := { w.site with stream := stream }, phase := phase } where
  outage := delivers.outage.trans h.outage
  account := h.account.deliver delivers
  inHand := ⟨es, among, decoded⟩
  reached := fun m v rest same => absurd same (open' m v rest)
  settled := h.settled
  records := h.records

theorem read (h : Sound s w) (phase : w.phase = .reading) (failure : Option (Fault × Nat)) :
    Sound s (w.work failure) := by
  obtain ⟨stream, delivers, ⟨f, received⟩ | ⟨ms, es, received, among, decoded⟩⟩ :=
    Stream.receive_cases w.site.clockMs w.site.stream w.site.settings.batchSize.toNat
  · simp only [work, phase, received]
    exact h.deliver delivers (List.nil_sublist _) .nil (by simp)
  · cases ms with
    | nil =>
      simp only [work, phase, received]
      exact h.deliver delivers (List.nil_sublist _) .nil (by simp)
    | cons m rest =>
      simp only [work, phase, received]
      exact h.deliver delivers among decoded (by simp)

theorem claim (h : Sound s w) (phase : w.phase = .claiming) (failure : Option (Fault × Nat)) :
    Sound s (w.work failure) := by
  obtain ⟨delivers, es, among, decoded⟩ :=
    Stream.claim_cases w.site.clockMs w.site.stream Site.reclaimAfter
  simp only [work, phase]
  exact h.deliver delivers among decoded (by simp)

/-- The worker takes up a message. -/
theorem handle (h : Sound s w) {m : Message} {rest : List Message}
    (phase : w.phase = .handling (m :: rest)) (failure : Option (Fault × Nat)) :
    Sound s (w.work failure) := by
  have hand := h.inHand
  rw [phase] at hand
  cases data : m.data with
  | none =>
    simp only [work, phase, data]
    refine { h with inHand := hand, reached := ?_ }
    rintro _ _ _ ⟨⟩
    exact data
  | some payload =>
    have later {w' : Shift} (more : w.ingestions ⊆ w'.ingestions) : ∀ p ∈ w.settled,
        (∀ f, p.2 ≠ .failed f) ∧ ∃ m, Stream.Decodes p.1 m ∧ w'.Explains m p.2 := by
      intro p mem
      obtain ⟨final, m', decoded, explained⟩ := h.settled p mem
      exact ⟨final, m', decoded, explained.mono more⟩
    rcases Site.ingestUnless_cases failure payload w.site with
      ⟨f, drawn, ran⟩ | ⟨row, drawn, index, desk, record, fresh, ran⟩
    · simp only [work, phase, data, ran, newRows_self]
      refine { h with
        inHand := hand
        settled := later (List.subset_append_left _ _)
        records := ?records
        reached := ?reached }
      case records =>
        rw [inserted_concat rfl, List.map_nil, List.append_nil]
        exact h.records
      case reached =>
        rintro _ _ _ ⟨⟩
        unfold Verdict.of
        dsimp only
        split
        · next final =>
          exact ⟨final, ⟨payload, data⟩, _, List.mem_append_right _ (List.mem_singleton.2 rfl), rfl,
            rfl⟩
        · trivial
    · simp only [work, phase, data, ran, newRows_append fresh]
      refine { h with
        inHand := hand
        settled := later (List.subset_append_left _ _)
        records := ?records
        reached := ?reached }
      case records =>
        rw [inserted_concat rfl, h.records]
        simp
      case reached =>
        rintro _ _ _ ⟨⟩
        refine ⟨payload, row, data, record, ?_⟩
        rw [inserted_concat rfl]
        exact List.mem_append_right _ (by simp)

/-- Whatever becomes of its entry, the messages behind a message are those of entries that are still
held. -/
theorem rest_held (h : Sound s w) {e : StreamEntry} {es : List StreamEntry}
    (among : (e :: es).Sublist w.site.stream.held) :
    es.Sublist (w.site.stream.held.filter (·.id ≠ e.id)) := by
  have distinct := h.account.nodup_held.sublist (among.map (·.id))
  have apart : ∀ x ∈ es, x.id ≠ e.id := by
    intro x mem same
    exact (List.nodup_cons.1 distinct).1 (List.mem_map.2 ⟨x, mem, same⟩)
  have kept := among.filter (·.id ≠ e.id)
  have others : es.filter (·.id ≠ e.id) = es :=
    List.filter_eq_self.2 fun x mem => decide_eq_true (apart x mem)
  rw [List.filter_cons, if_neg (by simp), others] at kept
  exact kept

/-- The worker concludes a message. -/
theorem conclude (h : Sound s w) {m : Message} {v : Verdict} {rest : List Message}
    (phase : w.phase = .concluding m v rest) (failure : Option (Fault × Nat)) :
    Sound s (w.work failure) := by
  obtain ⟨es, among, decoded⟩ := h.inHand
  rw [phase] at decoded
  cases decoded with
  | @cons e _ es _ first others =>
    simp only [work, phase]
    have records : (w.site.conclude m.id v).primary.records =
        s.primary.records ++ w.inserted.map (·.2) := by
      rw [Site.primary_conclude, h.records]
    have open' {w' : Shift} : ∀ m' v' rest', Phase.handling rest = .concluding m' v' rest' →
        w'.Explains m' v' := by
      intro m' v' rest' same
      cases same
    rcases Site.stream_conclude_cases m.id v w.site with ⟨calls, left⟩ | ⟨final, calls, left⟩
    · have held : (w.site.conclude m.id v).stream.held = w.site.stream.held := by rw [left]; rfl
      rw [released_of_held held, List.map_nil, List.append_nil]
      refine ⟨?_, ?_, ⟨es, ?_, others⟩, open', h.settled, records⟩
      · rw [left]
        exact h.outage
      · rw [left]
        exact h.account.called calls
      · rw [held]
        exact (List.sublist_cons_self e es).trans among
    · have held : (w.site.conclude m.id v).stream.held =
          w.site.stream.held.filter (·.id ≠ m.id) := by rw [left, Stream.held_filter]
      rw [released_of_filter held]
      refine ⟨?_, ?_, ⟨es, ?_, others⟩, open', ?settled, records⟩
      · rw [left]
        exact h.outage
      · rw [left, List.map_append, List.map_map]
        exact (List.map_id (w.site.stream.held.filter (·.id = m.id))).symm ▸
          h.account.settle calls m.id
      · rw [held, first.id]
        exact h.rest_held among
      case settled =>
        refine List.forall_mem_append.2 ⟨h.settled, ?_⟩
        intro p mem
        obtain ⟨x, inside, rfl⟩ := List.mem_map.1 mem
        obtain ⟨pending, named⟩ := List.mem_filter.1 inside
        have same : x = e := List.inj_on_of_nodup_map h.account.nodup_held pending
          (among.subset List.mem_cons_self) ((of_decide_eq_true named).trans first.id)
        exact ⟨final, m, same ▸ first, h.reached m v rest phase⟩

/-- Where its acknowledgement does not fail, the entry of a message that is stored or can never be is
released, and no other one. -/
theorem exists_released (h : Sound s w) {m : Message} {v : Verdict} {rest : List Message}
    (phase : w.phase = .concluding m v rest) (final : ∀ f, v ≠ .failed f)
    (steady : ∀ n, s.stream.outage n .acknowledge = none) :
    ∃ e, e.id = m.id ∧ released w.site.stream (w.site.conclude m.id v).stream = [e] := by
  obtain ⟨es, among, decoded⟩ := h.inHand
  rw [phase] at decoded
  cases decoded with
  | @cons e _ es _ first others =>
    have well : w.site.stream.fault? .acknowledge = none := by
      rw [Stream.fault?, h.outage]
      exact steady _
    have left := Site.stream_conclude_of_none m.id v w.site well final
    refine ⟨e, first.id.symm, ?_⟩
    rw [released_of_filter (by rw [left]; exact Stream.held_filter _ _ m.id), first.id]
    exact filter_key_eq h.account.nodup_held (among.subset List.mem_cons_self)

/-- Every call of the worker keeps what holds. -/
theorem work (h : Sound s w) (failure : Option (Fault × Nat)) : Sound s (w.work failure) := by
  cases phase : w.phase with
  | reading => exact h.read phase failure
  | claiming => exact h.claim phase failure
  | handling ms =>
    cases ms with
    | nil =>
      simp only [Shift.work, phase]
      exact { h with inHand := ⟨[], List.nil_sublist _, .nil⟩, reached := by simp }
    | cons m rest => exact h.handle phase failure
  | concluding m v rest => exact h.conclude phase failure

theorem take (h : Sound s w) (e : Event) : Sound s (w.take e) := by
  cases e with
  | append fields surplus => exact h.append fields surplus
  | pass now => exact { h with }
  | work failure => exact h.work failure

end Sound

/-- What holds besides where no acknowledgement fails: the messages whose records have come are
those that have been settled as stored, and the one that is about to be. -/
structure Exact (s : Site) (w : Shift) : Prop where
  inserted : w.inserted.map (·.1) =
    (w.settled.filter (·.2.isStored)).map (·.1.id) ++ w.phase.unconcluded
  processed : w.site.stats.processed =
    s.stats.processed + w.settled.countP (·.2.isStored)
  dropped : w.site.stats.dropped = s.stats.dropped + w.settled.countP (·.2.isDropped)

namespace Exact

variable {s : Site} {w : Shift}

/-- The worker takes up messages, or none. -/
theorem deliver (h : Exact s w) (done : w.phase.unconcluded = []) {stream : Stream} {phase : Phase}
    (taken : phase.unconcluded = []) :
    Exact s { w with site := { w.site with stream := stream }, phase := phase } where
  inserted := by
    rw [taken, ← done]
    exact h.inserted
  processed := h.processed
  dropped := h.dropped

/-- The worker takes up a message. -/
theorem handle (h : Exact s w) {m : Message} {rest : List Message}
    (phase : w.phase = .handling (m :: rest)) (failure : Option (Fault × Nat)) :
    Exact s (w.work failure) := by
  have before := h.inserted
  simp only [phase, Phase.unconcluded, List.append_nil] at before
  cases data : m.data with
  | none =>
    simp only [work, phase, data]
    exact ⟨before.trans (List.append_nil _).symm, h.processed, h.dropped⟩
  | some payload =>
    rcases Site.ingestUnless_cases failure payload w.site with
      ⟨f, drawn, ran⟩ | ⟨row, drawn, index, desk, -, fresh, ran⟩
    · simp only [work, phase, data, ran, newRows_self]
      refine ⟨?_, h.processed, h.dropped⟩
      have open' : (Phase.concluding m (.of (.error f)) rest).unconcluded = [] := by
        unfold Verdict.of
        dsimp only
        split <;> rfl
      rw [inserted_concat rfl, open']
      simpa using before
    · simp only [work, phase, data, ran, newRows_append fresh]
      refine ⟨?_, h.processed, h.dropped⟩
      rw [inserted_concat rfl, List.map_append, before]
      rfl

/-- The worker concludes a message. -/
theorem conclude (h : Exact s w) (sound : Sound s w)
    (steady : ∀ n, s.stream.outage n .acknowledge = none) {m : Message} {v : Verdict}
    {rest : List Message} (phase : w.phase = .concluding m v rest)
    (failure : Option (Fault × Nat)) : Exact s (w.work failure) := by
  have before := h.inserted
  rw [phase] at before
  obtain ⟨processed, dropped⟩ := w.site.stats_conclude m.id v
  rw [h.processed] at processed
  rw [h.dropped] at dropped
  simp only [work, phase]
  by_cases final : ∀ f, v ≠ .failed f
  case neg =>
    obtain ⟨f, failed⟩ := not_forall_not.1 final
    subst failed
    have none : released w.site.stream (w.site.conclude m.id (.failed f)).stream = [] :=
      released_of_held rfl
    rw [none, List.map_nil, List.append_nil]
    exact ⟨before, processed, dropped⟩
  case pos =>
    obtain ⟨e, named, gone⟩ := sound.exists_released phase final steady
    rw [gone, List.map_singleton]
    refine ⟨?_, ?_, ?_⟩
    · refine before.trans ?_
      rw [Phase.unconcluded_concluding, List.filter_append, List.map_append, List.append_assoc]
      cases stored : v.isStored <;> simp [stored, named, Phase.unconcluded]
    · rw [List.countP_append, List.countP_singleton, ← Nat.add_assoc]
      exact processed
    · rw [List.countP_append, List.countP_singleton, ← Nat.add_assoc]
      exact dropped

theorem take (h : Exact s w) (sound : Sound s w)
    (steady : ∀ n, s.stream.outage n .acknowledge = none) (e : Event) : Exact s (w.take e) := by
  cases e with
  | append fields surplus => exact { h with }
  | pass now => exact { h with }
  | work failure =>
    cases phase : w.phase with
    | reading =>
      have none : w.phase.unconcluded = [] := by rw [phase]; rfl
      rw [Shift.take, Shift.work, phase]
      dsimp only
      split <;> exact h.deliver none rfl
    | claiming =>
      have none : w.phase.unconcluded = [] := by rw [phase]; rfl
      simp only [Shift.take, Shift.work, phase]
      exact h.deliver none rfl
    | handling ms =>
      cases ms with
      | nil =>
        have none : w.phase.unconcluded = [] := by rw [phase]; rfl
        simp only [Shift.take, Shift.work, phase]
        exact h.deliver none rfl
      | cons m rest => exact h.handle phase failure
    | concluding m v rest => exact h.conclude sound steady phase failure

end Exact

/-- Events keep what holds, and what holds besides. -/
theorem run_sound {s : Site} {w : Shift} (sound : Sound s w) (events : List Event) :
    Sound s (w.run events) ∧ ((∀ n, s.stream.outage n .acknowledge = none) → Exact s w →
      Exact s (w.run events)) := by
  induction events generalizing w with
  | nil => exact ⟨sound, fun _ exact => exact⟩
  | cons e rest ih =>
    obtain ⟨sound', exact'⟩ := ih (sound.take e)
    exact ⟨sound', fun steady exact => exact' steady (exact.take sound steady e)⟩

/-- The worker appends no entries. -/
theorem arrived_work (w : Shift) (failure : Option (Fault × Nat)) :
    (w.work failure).arrived = w.arrived := by
  unfold work
  repeat' split
  all_goals rfl

/-- The entries are those that have been appended, in order. -/
theorem fields_run (w : Shift) (events : List Event) :
    (w.run events).arrived.map (·.fields) = w.arrived.map (·.fields) ++ appended events := by
  induction events generalizing w with
  | nil => exact (List.append_nil _).symm
  | cons e rest ih =>
    refine (ih (w.take e)).trans ?_
    cases e with
    | append fields surplus => simp [take, appended]
    | pass now => rfl
    | work failure => rw [take, arrived_work]; rfl

/-- Where an entry stands. -/
inductive Standing where
  | undelivered
  | pending
  | acknowledged
  deriving DecidableEq

/-- An entry stands so: it waits, or it is held by the worker's group, or it has been
acknowledged. -/
def Stands (w : Shift) (e : StreamEntry) : Standing → Prop
  | .undelivered => e ∈ w.site.stream.waiting
  | .pending => e ∈ w.site.stream.held
  | .acknowledged => e ∈ w.settled.map (·.1)

/-- An entry has been given up: it stands nowhere, the stream has no such entry any more, and enough
others have been appended after it. -/
structure GivenUp (w : Shift) (e : StreamEntry) : Prop where
  nowhere : ∀ st, ¬w.Stands e st
  gone : e ∉ w.site.stream.entries
  old : e ∈ w.arrived.take (w.arrived.length - Stream.maxLength)

/-- An entry may be acknowledged: it has no readable payload, or a record of its payload was inserted,
or a call to ingest the payload ended with a problem of the input or of what it names. -/
def Justifies (w : Shift) (e : StreamEntry) : Verdict → Prop
  | .unreadable => Stream.decode e = .ok ⟨e.id, none⟩
  | .stored => ∃ payload row, Stream.decode e = .ok ⟨e.id, some payload⟩ ∧
    row.IsRecordOf payload.payload ∧ (e.id, row) ∈ w.inserted
  | .rejected f => ∃ payload p, Stream.decode e = .ok ⟨e.id, some payload⟩ ∧ f = .problem p ∧
    (p.category = .input ∨ p.category = .notFound) ∧
    ∃ i ∈ w.ingestions, i.id = e.id ∧ i.result = .error f
  | .failed _ => False

/-- What becomes of what has been appended to the stream of a site that was `s` at first. -/
structure Conserved (s : Site) (appended : List Fields) (w : Shift) : Prop where
  arrived : w.arrived.map (·.fields) = appended
  distinct : (w.arrived.map (·.id)).Nodup
  standing : ∀ e ∈ w.arrived, (∃! st, w.Stands e st) ∨ w.GivenUp e
  justified : ∀ e v, (e, v) ∈ w.settled → w.Justifies e v
  records : w.site.primary.records = s.primary.records ++ w.inserted.map (·.2)
  once : (∀ n, s.stream.outage n .acknowledge = none) → (w.inserted.map (·.1)).Nodup
  processed : (∀ n, s.stream.outage n .acknowledge = none) →
    w.site.stats.processed = s.stats.processed + w.settled.countP (·.2.isStored)
  dropped : (∀ n, s.stream.outage n .acknowledge = none) →
    w.site.stats.dropped = s.stats.dropped + w.settled.countP (·.2.isDropped)

namespace Sound

variable {s : Site} {w : Shift}

theorem standing (h : Sound s w) {e : StreamEntry} (mem : e ∈ w.arrived) :
    (∃! st, w.Stands e st) ∨ w.GivenUp e := by
  obtain ⟨lost, parts, gone⟩ := h.account.whole
  have all := (parts.map (·.id)).nodup_iff.2 h.account.distinct
  obtain ⟨settled', -, apart''⟩ := List.nodup_append'.1 all.of_map
  obtain ⟨open', -, apart⟩ := List.nodup_append'.1 settled'
  obtain ⟨-, -, apart'⟩ := List.nodup_append'.1 open'
  rcases List.mem_append.1 (parts.mem_iff.2 mem) with there | given
  · left
    rcases List.mem_append.1 there with unsettled | settled
    · rcases List.mem_append.1 unsettled with waiting | held
      · refine ⟨.undelivered, waiting, ?_⟩
        rintro (_ | _ | _) stands
        · rfl
        · exact absurd stands (apart' waiting)
        · exact absurd stands (apart unsettled)
      · refine ⟨.pending, held, ?_⟩
        rintro (_ | _ | _) stands
        · exact absurd held (apart' stands)
        · rfl
        · exact absurd stands (apart unsettled)
    · refine ⟨.acknowledged, settled, ?_⟩
      rintro (_ | _ | _) stands
      · exact absurd settled (apart (List.mem_append_left _ stands))
      · exact absurd settled (apart (List.mem_append_right _ stands))
      · rfl
  · refine .inr ⟨?_, gone e given, h.account.mem_take_arrived mem (gone e given)⟩
    rintro (_ | _ | _) stands
    · exact apart'' (List.mem_append_left _ (List.mem_append_left _ stands)) given
    · exact apart'' (List.mem_append_left _ (List.mem_append_right _ stands)) given
    · exact apart'' (List.mem_append_right _ stands) given

theorem justifies (h : Sound s w) {e : StreamEntry} {v : Verdict} (mem : (e, v) ∈ w.settled) :
    w.Justifies e v := by
  obtain ⟨final, ⟨id, data⟩, decoded, explained⟩ := h.settled _ mem
  have named := decoded.id
  dsimp only at named
  subst named
  cases v with
  | unreadable =>
    cases explained
    exact decoded
  | stored =>
    obtain ⟨payload, row, rfl, record, inserted⟩ := explained
    exact ⟨payload, row, decoded, record, inserted⟩
  | rejected f =>
    obtain ⟨rejected, ⟨payload, rfl⟩, ended⟩ := explained
    obtain ⟨p, problem, category⟩ := Fault.isFinal_iff.1 rejected
    exact ⟨payload, p, decoded, problem, category, ended⟩
  | failed f => exact absurd rfl (final f)

/-- No message brings two records where no acknowledgement fails: those that are settled are of
different entries, and the one in hand is of an entry that is still held. -/
theorem nodup_inserted (h : Sound s w) (exact : Exact s w) : (w.inserted.map (·.1)).Nodup := by
  have all := h.account.nodup
  rw [List.map_append, List.nodup_append'] at all
  obtain ⟨-, settled, apart⟩ := all
  have stored : ((w.settled.filter (·.2.isStored)).map (·.1.id)).Sublist
      ((w.settled.map (·.1)).map (·.id)) := by
    rw [List.map_map]
    exact List.Sublist.map _ List.filter_sublist
  rw [exact.inserted]
  cases phase : w.phase with
  | concluding m v rest =>
    rw [Phase.unconcluded_concluding]
    split
    · obtain ⟨es, among, decoded⟩ := h.inHand
      rw [phase] at decoded
      cases decoded with
      | @cons e _ es _ first others =>
        have held : m.id ∈ (w.site.stream.waiting ++ w.site.stream.held).map (·.id) := by
          rw [first.id]
          exact List.mem_map_of_mem (List.mem_append_right _ (among.subset List.mem_cons_self))
        rw [← List.concat_eq_append]
        exact (settled.sublist stored).concat fun mem => apart held (stored.subset mem)
    · rw [List.append_nil]
      exact settled.sublist stored
  | _ =>
    simp only [Phase.unconcluded, List.append_nil]
    exact settled.sublist stored

theorem conserved (h : Sound s w)
    (exact : (∀ n, s.stream.outage n .acknowledge = none) → Exact s w) :
    w.Conserved s (w.arrived.map (·.fields)) where
  arrived := rfl
  distinct := h.account.distinct
  standing := fun _ mem => h.standing mem
  justified := fun _ _ mem => h.justifies mem
  records := h.records
  once := fun steady => h.nodup_inserted (exact steady)
  processed := fun steady => (exact steady).processed
  dropped := fun steady => (exact steady).dropped

end Sound

/-- Nothing has come to a new stream. -/
theorem sound_start {s : Site} (entries : s.stream.entries = []) (pending : s.stream.pending = [])
    (none : s.stream.appended = 0) : Sound s { site := s } where
  outage := rfl
  account := .new entries pending none
  inHand := ⟨[], List.nil_sublist _, .nil⟩
  reached := by simp
  settled := by simp
  records := (List.append_nil _).symm

/-- At each moment of a worker's work on a new stream, whatever is appended, whatever time it is and
whatever fails: every entry waits, is pending or has been acknowledged, and but one of these, or it
has been given up; each that has been acknowledged was unreadable, inserted or rejected; and if no
acknowledgement fails no entry is inserted twice, and the counts are those of the entries that were
acknowledged. -/
theorem run_conserved {s : Site} (entries : s.stream.entries = [])
    (pending : s.stream.pending = []) (none : s.stream.appended = 0) (events : List Event) :
    (run { site := s } events).Conserved s (appended events) := by
  obtain ⟨sound, exact⟩ := run_sound (sound_start entries pending none) events
  have whole := sound.conserved fun steady => exact steady ⟨rfl, rfl, rfl⟩
  rw [fields_run] at whole
  exact whole

/-- The shop, where the first reading and the first claim fail. -/
def patchyShop : Site :=
  { Site.shopSite with stream := { outage := fun n c =>
      if (n = 0 ∧ c = .read) ∨ (n = 1 ∧ c = .listPending) then some .unreachable else none } }

/-- The text of a short log. -/
def shortText : String :=
  "\x7b\"level\":\"E\",\"environment\":\"p\",\"projectId\":\"shop\",\"message\":\"m\",\"timestampMS\":1\x7d"

/-- Three entries arrive: one without data, one whose payload lacks all fields, and one with a log.
The ingestion of the log fails until its entry is claimed. -/
def patchyEvents : List Event :=
  [.append [] 0, .work none, .work none, .append [("data", .str "\x7b\x7d")] 1, .work none,
    .append [("data", .str shortText)] 0] ++ List.replicate 5 (.work none) ++
    [.work (some (.crash, 1))] ++ List.replicate 2 (.work none) ++ [.pass 1711886500000000] ++
    List.replicate 4 (.work none)

theorem run_conserved_patchyEvents :
    (run { site := patchyShop } patchyEvents).settled.map (fun p => (p.1.id, p.2)) =
        [("1-0", .unreadable), ("2-0", .rejected (.problem (.missingFields neededFields))),
          ("3-0", .stored)] ∧
      (run { site := patchyShop } patchyEvents).Conserved patchyShop (appended patchyEvents) :=
  ⟨by decide +kernel, run_conserved rfl rfl rfl patchyEvents⟩

/-- Entries without data, for each of which the stream gives up an old one if it may. -/
def flood (n : Nat) : List Event :=
  List.replicate n (.append [] 1)

/-- With one more entry the stream holds one more, or as many as it keeps at least. -/
theorem take_append (w : Shift) (fields : Fields) (surplus : Nat) :
    (w.take (.append fields surplus)).site.stream.entries.length =
        w.site.stream.entries.length + 1 -
          min surplus (w.site.stream.entries.length + 1 - Stream.maxLength) ∧
      (w.take (.append fields surplus)).site.stream.held = w.site.stream.held ∧
      (w.take (.append fields surplus)).settled = w.settled ∧
      (w.take (.append fields surplus)).arrived.length = w.arrived.length + 1 := by
  refine ⟨?_, rfl, rfl, List.length_append⟩
  rw [take]
  dsimp only
  rw [Stream.entries_trim, List.length_drop, Stream.excess, Stream.entries_push,
    List.length_append, List.length_singleton]

/-- A flood fills the stream, and no more. -/
theorem run_flood (n : Nat) : let w := run { site := Site.shopSite } (flood n)
    w.site.stream.entries.length = min n Stream.maxLength ∧ w.site.stream.held = [] ∧
      w.settled = [] ∧ w.arrived.length = n := by
  induction n with
  | zero => exact ⟨rfl, rfl, rfl, rfl⟩
  | succ n ih =>
    obtain ⟨entries, held, settled, arrived⟩ := ih
    have step : run { site := Site.shopSite } (flood (n + 1)) =
        (run { site := Site.shopSite } (flood n)).take (.append [] 1) := by
      rw [flood, List.replicate_succ', run, List.foldl_append]
      rfl
    obtain ⟨entries', held', settled', arrived'⟩ :=
      (run { site := Site.shopSite } (flood n)).take_append [] 1
    have filled (m : Nat) : min n m + 1 - min 1 (min n m + 1 - m) = min (n + 1) m := by omega
    rw [step]
    refine ⟨?_, held'.trans held, settled'.trans settled, ?_⟩
    · rw [entries', entries, filled]
    · rw [arrived', arrived]

/-- The stream keeps no more entries than it has to, so of one more an entry stands nowhere. And an
entry that cannot be read counts as dropped, though no call has rejected it. -/
theorem not_standing_flood :
    (∃ e ∈ (run { site := Site.shopSite } (flood (Stream.maxLength + 1))).arrived,
      ∀ st, ¬(run { site := Site.shopSite } (flood (Stream.maxLength + 1))).Stands e st) ∧
    (let w := run { site := Site.shopSite } (.append [] 0 :: List.replicate 3 (.work none))
    w.settled = [(⟨"1-0", []⟩, .unreadable)] ∧ w.ingestions.length = 0 ∧
      w.site.stats.dropped = 1) := by
  refine ⟨?_, by decide +kernel⟩
  obtain ⟨entries, held, settled, arrived⟩ := run_flood (Stream.maxLength + 1)
  obtain ⟨sound, -⟩ := run_sound (sound_start (s := Site.shopSite) rfl rfl rfl)
    (flood (Stream.maxLength + 1))
  obtain ⟨lost, parts, gone⟩ := sound.account.whole
  have count := parts.length_eq
  rw [Stream.entries, List.length_append] at entries
  rw [held, settled, List.map_nil, List.append_nil, List.append_nil, List.length_append,
    arrived] at count
  obtain ⟨e, mem⟩ := List.exists_mem_of_length_pos (l := lost) (by omega)
  refine ⟨e, parts.subset (List.mem_append_right _ mem), ?_⟩
  rintro (_ | _ | _) stands
  · exact gone e mem (List.mem_append_right _ stands)
  · rw [Stands, held] at stands
    cases stands
  · rw [Stands, settled] at stands
    cases stands

end Shift

end Logbook

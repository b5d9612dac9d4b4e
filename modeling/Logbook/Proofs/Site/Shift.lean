import Logbook.Proofs.Site.Handling

/-!
# A worker, call by call

A worker goes through its rounds call by call (`Shift.work`): it reads, or claims, then takes up its
messages one by one, and concludes each before it takes up the next. Meanwhile entries are appended,
for which the stream may give up old ones, time passes, and every call may fail. A ledger is kept
beside the site, of the entries that have been appended, of those that have been acknowledged and of
the calls that ingested logs. Undisturbed, the calls are those of the rounds of `Site.round`
(`Shift.exists_works_round`).
-/

namespace Logbook

/-- What a worker is about to do. -/
inductive Phase where
  | reading
  | claiming
  | handling (ms : List Message)
  | concluding (m : Message) (v : Verdict) (rest : List Message)

namespace Phase

/-- The messages that the worker has in hand. -/
def messages : Phase → List Message
  | reading | claiming => []
  | handling ms => ms
  | concluding m _ rest => m :: rest

/-- The identifier of a message that is stored and not yet concluded. -/
def unconcluded : Phase → List String
  | concluding m .stored _ => [m.id]
  | _ => []

theorem unconcluded_concluding (m : Message) (v : Verdict) (rest : List Message) :
    (concluding m v rest).unconcluded = if v.isStored then [m.id] else [] := by
  cases v <;> rfl

end Phase

/-- A call that ingested the log of a message: how it ended, and the records that came with it. -/
structure Ingestion where
  id : String
  result : Except Fault Unit
  rows : List LogEntry

/-- A site with its worker at work: the entries that have been appended so far, those that have been
acknowledged, each with the verdict on it, and the calls that ingested logs. -/
structure Shift where
  site : Site
  phase : Phase := .reading
  arrived : List StreamEntry := []
  settled : List (StreamEntry × Verdict) := []
  ingestions : List Ingestion := []

/-- What happens at a site while its worker is at work: an entry is appended, and the stream may give
up old ones for it; the clock shows another time; or the worker makes its next call. If that call
ingests a log it may be made to fail, after some identifiers have been drawn. -/
inductive Event where
  | append (fields : Fields) (surplus : Nat)
  | pass (now : Int)
  | work (failure : Option (Fault × Nat))

namespace Site

/-- Stores the log of a payload from the stream, or fails. -/
def ingestUnless (failure : Option (Fault × Nat)) (payload : LoadedFields) : Act Site Unit :=
  match failure with
  | none => ingestQueued payload
  | some (f, used) => fun s => (.error f, { s with drawn := s.drawn + used })

end Site

namespace Shift

/-- The records that are in a store and were not in it before. -/
def newRows (before after : Primary) : List LogEntry :=
  after.records.filter (· ∉ before.records)

/-- The entries that are not held any longer. -/
def released (before after : Stream) : List StreamEntry :=
  before.held.filter (· ∉ after.held)

/-- The next call of the worker. -/
def work (failure : Option (Fault × Nat)) (w : Shift) : Shift :=
  match w.phase with
  | .reading =>
    match Stream.receive w.site.clockMs w.site.settings.batchSize.toNat w.site.stream with
    | (.error _, stream) => { w with site := { w.site with stream := stream }, phase := .handling [] }
    | (.ok [], stream) => { w with site := { w.site with stream := stream }, phase := .claiming }
    | (.ok ms, stream) => { w with site := { w.site with stream := stream }, phase := .handling ms }
  | .claiming =>
    let (ms, stream) := w.site.stream.claim w.site.clockMs Site.reclaimAfter
    { w with site := { w.site with stream := stream }, phase := .handling ms }
  | .handling [] => { w with phase := .reading }
  | .handling (m :: rest) =>
    match m.data with
    | none => { w with phase := .concluding m .unreadable rest }
    | some payload =>
      let (result, site) := Site.ingestUnless failure payload w.site
      { w with
        site := site
        phase := .concluding m (.of result) rest
        ingestions := w.ingestions ++ [⟨m.id, result, newRows w.site.primary site.primary⟩] }
  | .concluding m v rest =>
    let site := w.site.conclude m.id v
    { w with
      site := site
      phase := .handling rest
      settled := w.settled ++ (released w.site.stream site.stream).map (·, v) }

/-- One event. -/
def take (w : Shift) : Event → Shift
  | .append fields surplus =>
    let (id, stream) := w.site.stream.push fields
    { w with
      site := { w.site with stream := stream.trim surplus }
      arrived := w.arrived ++ [⟨id, fields⟩] }
  | .pass now => { w with site := { w.site with now := now } }
  | .work failure => w.work failure

/-- Events one after the other. -/
def run (w : Shift) (events : List Event) : Shift :=
  events.foldl take w

/-- What is appended in some events. -/
def appended (events : List Event) : List Fields :=
  events.filterMap fun e => match e with
    | .append fields _ => some fields
    | _ => none

/-- The records that came with the ingestion of a message, each with the identifier of that. -/
def inserted (w : Shift) : List (String × LogEntry) :=
  w.ingestions.flatMap fun i => i.rows.map (i.id, ·)

section Adequacy

/-- The worker goes on by `n` calls, and none of them is made to fail. -/
def works (n : Nat) (w : Shift) : Shift :=
  w.run (List.replicate n (.work none))

/-- Two calls handle one message. -/
theorem works_handling_cons {w : Shift} {m : Message} {rest : List Message}
    (phase : w.phase = .handling (m :: rest)) :
    (works 2 w).site = (w.site.handle m).2 ∧ (works 2 w).phase = .handling rest := by
  obtain ⟨site, phase', arrived, settled, ingestions⟩ := w
  cases phase
  rw [Site.handle, Site.handleBy_eq]
  simp only [works, run, List.replicate, List.foldl_cons, List.foldl_nil, take, work]
  cases m.data with
  | none => exact ⟨rfl, rfl⟩
  | some payload => exact ⟨rfl, rfl⟩

theorem works_add (m n : Nat) (w : Shift) : works (m + n) w = works n (works m w) := by
  rw [works, List.replicate_add, run, List.foldl_append]
  rfl

theorem exists_works_handling (ms : List Message) {w : Shift} (phase : w.phase = .handling ms) :
    ∃ n, (works n w).site = Site.handleAllBy Site.ingestQueued ms w.site ∧
      (works n w).phase = .handling [] := by
  induction ms generalizing w with
  | nil => exact ⟨0, rfl, phase⟩
  | cons m rest ih =>
    obtain ⟨first, behind⟩ := works_handling_cons phase
    obtain ⟨n, site, last⟩ := ih behind
    refine ⟨2 + n, ?_, ?_⟩
    · rw [works_add, site, first]
      rfl
    · rw [works_add, last]

/-- Undisturbed, a worker that is about to read goes through a round. -/
theorem exists_works_round {w : Shift} (phase : w.phase = .reading) :
    ∃ n, (works n w).site = w.site.round.2 ∧ (works n w).phase = .handling [] := by
  have read : works 1 w = w.work none := rfl
  unfold Site.round Site.roundBy
  unfold work at read
  rw [phase] at read
  dsimp only at read
  rcases received : Stream.receive w.site.clockMs w.site.settings.batchSize.toNat w.site.stream with
    ⟨f | ms, stream⟩
  · rw [received] at read
    exact ⟨1, by rw [read], by rw [read]⟩
  · rw [received] at read
    cases ms with
    | nil =>
      obtain ⟨n, site, last⟩ := exists_works_handling
        (stream.claim w.site.clockMs Site.reclaimAfter).1 (w := works 2 w) (by
          rw [works_add 1 1, read]
          rfl)
      refine ⟨2 + n, ?_, ?_⟩
      · rw [works_add, site, works_add 1 1, read]
        rfl
      · rw [works_add, last]
    | cons m rest =>
      obtain ⟨n, site, last⟩ := exists_works_handling (m :: rest) (w := works 1 w) (by rw [read])
      refine ⟨1 + n, ?_, ?_⟩
      · rw [works_add, site, read]
      · rw [works_add, last]

end Adequacy

end Shift

end Logbook

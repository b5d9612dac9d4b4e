import Logbook.Proofs.Log.Received
import Logbook.Proofs.Site.Handling
import Logbook.Proofs.Site.Renaming
import Logbook.Site.Http

/-!
# Logs by way of the queue

A site may ingest the logs that are posted to it at once, or queue them for its worker. It comes to
the same, but for those that the stream gives up before the worker gets to them (`Surviving`). The
queue and what has been posted and is not ingested yet stay in step: the entries that wait are those
payloads among them that are fit for the queue, in order (`Site.Behind`). The others would be
rejected at once as well, so they make no difference. Once nothing waits, the stores, the cache and
the notifications that have been sent are those of a site without a queue, but for the identifiers
that were drawn (`Site.drained_renamed`).
-/

namespace Logbook

/-- A payload that is tested before it is queued: does it pass? -/
def isQueued (payload : Fields) : Bool :=
  match Draft.ofPayload (.obj payload) with
  | .ok d => (readTimestamp (d.payload.get "timestampMS")).isOk
  | .error _ => false

/-- The request that creates the log of a payload. -/
def creation (payload : Fields) : HttpRequest where
  method := "POST"
  path := "/api/v1/logs"
  body := some (.obj payload)

/-- What comes to a site with a queue: a payload is posted, or the worker goes through a round. -/
inductive Visit where
  | post (payload : Fields)
  | round

/-- The payloads that are posted. -/
def posted (visits : List Visit) : List Fields :=
  visits.filterMap fun v => match v with
    | .post payload => some payload
    | .round => none

/-- These are left of all payloads: the others had each at least as many behind them as the stream
keeps. -/
inductive Surviving : List Fields → List Fields → Prop where
  | nil : Surviving [] []
  | keep (payload : Fields) {left all : List Fields} :
    Surviving left all → Surviving (payload :: left) (payload :: all)
  | lose (payload : Fields) {left all : List Fields} :
    Stream.maxLength ≤ all.length → Surviving left all → Surviving left (payload :: all)

namespace Surviving

theorem refl (all : List Fields) : Surviving all all := by
  induction all with
  | nil => exact .nil
  | cons payload _ ih => exact .keep payload ih

/-- Of so few that the stream keeps them none is lost. -/
theorem eq_of_length_le {left all : List Fields} (h : Surviving left all)
    (few : all.length ≤ Stream.maxLength) : left = all := by
  induction h with
  | nil => rfl
  | keep payload _ ih => rw [ih (Nat.le_of_succ_le few)]
  | lose payload enough _ _ =>
    rw [List.length_cons] at few
    omega

theorem length_le {left all : List Fields} (h : Surviving left all) :
    left.length ≤ all.length := by
  induction h with
  | nil => exact Nat.le_refl _
  | keep payload _ ih => exact Nat.succ_le_succ ih
  | lose payload _ _ ih => exact Nat.le_succ_of_le ih

theorem append {left all : List Fields} (h : Surviving left all) (first : List Fields) :
    Surviving (first ++ left) (first ++ all) := by
  induction first with
  | nil => exact h
  | cons payload _ ih => exact .keep payload ih

theorem lost {left all : List Fields} (h : Surviving left all) {first : List Fields}
    (enough : first = [] ∨ Stream.maxLength ≤ all.length) : Surviving left (first ++ all) := by
  rcases enough with rfl | enough
  · exact h
  · induction first with
    | nil => exact h
    | cons payload rest ih =>
      exact .lose payload (enough.trans ((List.suffix_append rest _).length_le)) ih

end Surviving

namespace Stream

/-- No call and no reading of an entry fails, and no entry has been pending for any time. -/
structure Calm (now : Int) (s : Stream) : Prop where
  steady : ∀ n c, s.outage n c = none
  legible : ∀ e, s.breakdown e = none
  recent : ∀ p ∈ s.pending, p.since = now

/-- Entries that have just been delivered are not claimed. -/
theorem claim_of_calm {s : Stream} {now : Int} (calm : s.Calm now) {minIdle : Int}
    (given : 0 ≤ minIdle) : s.claim now minIdle = ([], s.called) := by
  have idle : ((s.pending.take claimLimit).filter fun p => minIdle < idleMs now p) = [] := by
    rw [List.filter_eq_nil_iff]
    intro p mem late
    have since := calm.recent p (List.mem_of_mem_take mem)
    have long := of_decide_eq_true late
    unfold idleMs at long
    omega
  unfold claim fault?
  rw [calm.steady]
  dsimp only
  rw [idle]
  rfl

theorem Calm.deliver {s : Stream} {now : Int} (calm : s.Calm now) (count : Nat) :
    (s.called.deliver now count).2.Calm now where
  steady := calm.steady
  legible := calm.legible
  recent := by
    intro p mem
    rcases List.mem_append.1 mem with old | new
    · exact calm.recent p old
    · obtain ⟨e, -, rfl⟩ := List.mem_map.1 new
      rfl

theorem Calm.append {s : Stream} {now : Int} (calm : s.Calm now) (fields : Fields) :
    (append fields s).2.Calm now := by
  rw [snd_append s (calm.steady _ _)]
  exact ⟨calm.steady, calm.legible, calm.recent⟩

/-- An entry carries a payload. -/
def Carries (e : StreamEntry) (payload : Fields) : Prop :=
  decode e = .ok ⟨e.id, some (Loaded.ofFields payload)⟩

/-- What is written for a payload carries it, if that is what it is read as. -/
theorem carries_of_read {payload : Fields} (readable :
    Loaded.read (Json.obj payload).spaced.toList = some (.ofJson (.obj payload))) (id : String) :
    Carries ⟨id, [("data", .str (Json.obj payload).spaced)]⟩ payload := by
  have found : List.lookup "data" [("data", Json.str (Json.obj payload).spaced)] =
    some (.str (Json.obj payload).spaced) := rfl
  rw [Carries, decode]
  dsimp only
  rw [found]
  dsimp only
  rw [readable]
  rfl

/-- Those that wait carry what is fit for the queue among some payloads. When old entries are given
up, those that still wait carry what is fit among the last of the payloads, and there are enough of
these if any are lost. -/
theorem carries_trim {s : Stream} {todo : List Fields}
    (carried : List.Forall₂ Carries s.waiting (todo.filter isQueued)) (n : Nat) :
    ∃ lost rest, todo = lost ++ rest ∧ (lost = [] ∨ maxLength ≤ rest.length) ∧
      (s.waiting.length ≤ maxLength → lost = []) ∧
      List.Forall₂ Carries (s.trim n).waiting (rest.filter isQueued) := by
  rcases s.waiting_trim_cases n with all | ⟨many, enough⟩
  · exact ⟨[], todo, rfl, .inl rfl, fun _ => rfl, all ▸ carried⟩
  · rw [waiting_trim] at enough ⊢
    set k := s.excess n - s.delivered.length
    obtain ⟨lost, rest, split, -, back⟩ := List.filter_eq_append_iff.1
      (List.take_append_drop k (todo.filter isQueued)).symm
    have left := List.forall₂_drop k carried
    rw [← back] at left
    rw [left.length_eq] at enough
    exact ⟨lost, rest, split, .inr (enough.trans (List.length_filter_le _ _)),
      fun few => absurd many (Nat.not_lt.2 few), left⟩

/-- Entries with payloads can all be read. -/
theorem exists_messages {s : Stream} (legible : ∀ e, s.breakdown e = none) {es : List StreamEntry}
    {payloads : List Fields} (carried : List.Forall₂ Carries es payloads) :
    ∃ ms, s.messages es = .ok ms ∧
      List.Forall₂ (fun m payload => m.data = some (Loaded.ofFields payload)) ms payloads := by
  induction carried with
  | nil => exact ⟨[], rfl, .nil⟩
  | @cons e payload es payloads first _ ih =>
    obtain ⟨ms, read, data⟩ := ih
    have first : s.message e = .ok ⟨e.id, some (Loaded.ofFields payload)⟩ := by
      rw [message, legible]
      exact first
    refine ⟨⟨e.id, some (Loaded.ofFields payload)⟩ :: ms, ?_, .cons rfl data⟩
    rw [messages, first, read]
    rfl

end Stream

namespace Site

/-- The site after a visit. -/
def visit (s : Site) : Visit → Site
  | .post payload => (respond (creation payload) s).2
  | .round => s.round.2

/-- The site after visits. -/
def visited (s : Site) (visits : List Visit) : Site :=
  visits.foldl visit s

/-- Whenever a payload is posted, fewer entries wait than the stream keeps. -/
def HasRoom (s : Site) : List Visit → Prop
  | [] => True
  | .post payload :: rest =>
    s.stream.waiting.length < Stream.maxLength ∧ (s.visit (.post payload)).HasRoom rest
  | .round :: rest => (s.visit .round).HasRoom rest

theorem visited_append (s : Site) (first later : List Visit) :
    s.visited (first ++ later) = (s.visited first).visited later :=
  List.foldl_append

section Posting

variable (payload : Fields) (s : Site)

theorem target_creation : (creation payload).target = .ok ("/api/v1/logs".toList, []) :=
  have known : (creation []).target = .ok ("/api/v1/logs".toList, []) := by decide +kernel
  known

/-- What is answered on a route changes nothing any more. -/
theorem snd_respondOn (route : Route) (query : List (String × String)) (body : Option Json) :
    (respondOn route query body s).2 = (follows query body route s).2 := by
  have answer (reply : HttpReply) (s' : Site) : ((if reply.body.hasUnbounded then throw .badValue
      else pure reply : Act Site HttpReply) s').2 = s' := by
    split <;> rfl
  unfold respondOn
  rcases ran : follows query body route s with ⟨f | reply, s'⟩
  · cases f with
    | problem p =>
      rw [Act.bind_of_ok (Act.tryCatch_of_error ran _)]
      exact answer _ s'
    | _ => rw [Act.bind_of_error (Act.tryCatch_of_error ran _)]
  · rw [Act.bind_of_ok (Act.tryCatch_of_ok ran _)]
    exact answer reply s'

/-- What a request on a route changes is what the route does with it. -/
theorem snd_respond {r : HttpRequest} {path : List Char} {query : List (String × String)}
    {route : Route} (target : r.target = .ok (path, query))
    (found : Route.ofPath? path = some route) (method : route.method = uppered r.method) :
    (respond r s).2 = (follows query r.body route s).2 := by
  unfold respond
  rw [target, Act.bind_of_ok (Act.ofExcept_ok _ s)]
  dsimp only
  rw [found]
  simp only [method, ne_eq, not_true, if_false]
  exact snd_respondOn s route query r.body

/-- A payload that is posted comes to be created. -/
theorem snd_respond_creation :
    (respond (creation payload) s).2 = (create (.obj payload) s).2 :=
  have found : Route.ofPath? "/api/v1/logs".toList = some .create := by decide
  have method : Route.create.method = uppered "POST" := by decide +kernel
  snd_respond s (target_creation payload) found method

/-- At a site without a queue, a payload that is posted is ingested. -/
theorem snd_create_of_not_queued (direct : s.queued = false) (payload : Json) :
    (create payload s).2 = (ingest payload s).2 := by
  unfold create
  rw [Act.bind_of_ok (Act.get_apply s)]
  simp only [direct, Bool.false_eq_true, if_false, Act.bind_apply]
  rcases ingest payload s with ⟨f | r, s'⟩ <;> rfl

/-- At a site with a queue, a payload that is posted is tested and appended to the stream. -/
theorem snd_create_of_queued (queued : s.queued = true) (payload : Json) :
    (create payload s).2 = match prepare payload s with
      | (.error _, s) => s
      | (.ok _, s) => (onStream (Stream.enqueue payload) s).2 := by
  unfold create
  rw [Act.bind_of_ok (Act.get_apply s)]
  simp only [queued, if_true, Act.bind_apply]
  rcases prepare payload s with ⟨f | r, s'⟩
  · rfl
  · dsimp only
    rcases onStream (Stream.enqueue payload) s' with ⟨f | id, s''⟩ <;> rfl

/-- A payload is fit for the queue if its tests raise no fault, whatever the site. -/
theorem prepare_cases : (isQueued payload = true ∧
        ∃ r, prepare (.obj payload) s = (.ok r, { s with drawn := s.drawn + 1 })) ∨
      isQueued payload = false ∧ ∃ f drawn, s.drawn ≤ drawn ∧
        prepare (.obj payload) s = (.error f, { s with drawn := drawn }) := by
  unfold isQueued
  rw [prepare_apply]
  cases Draft.ofPayload (.obj payload) with
  | error p => exact .inr ⟨rfl, _, s.drawn, Nat.le_refl _, rfl⟩
  | ok d =>
    dsimp only [Draft.record]
    cases readTimestamp (d.payload.get "timestampMS") with
    | error f => exact .inr ⟨rfl, f, s.drawn + 1, Nat.le_succ _, rfl⟩
    | ok n => exact .inl ⟨rfl, _, rfl⟩

end Posting

section Rounds

variable {t : Site}

/-- A round with a stream at its ease handles the next messages. -/
theorem round_of_calm (calm : t.stream.Calm t.clockMs) {ms : List Message}
    (read : t.stream.messages (t.stream.waiting.take t.settings.batchSize.toNat) = .ok ms) :
    ∃ stream : Stream, stream.waiting = t.stream.waiting.drop t.settings.batchSize.toNat ∧
      stream.Calm t.clockMs ∧
      t.round.2 = handleAllBy ingestQueued ms { t with stream := stream } := by
  have delivered := calm.deliver t.settings.batchSize.toNat
  have received := Stream.receive_of_none t.clockMs t.stream (calm.steady _ _)
    t.settings.batchSize.toNat
  rw [read] at received
  unfold round roundBy
  rw [received]
  cases ms with
  | nil =>
    dsimp only
    rw [Stream.claim_of_calm delivered (by decide)]
    exact ⟨(t.stream.called.deliver t.clockMs t.settings.batchSize.toNat).2.called, rfl,
      ⟨delivered.steady, delivered.legible, delivered.recent⟩, rfl⟩
  | cons m rest => exact ⟨_, rfl, delivered, rfl⟩

end Rounds

/-- The site `t` queues what is posted to it and has yet to ingest `todo`. But for this it is the
twin of `s`, which has no queue; the pairs of `old` stand for each other. -/
structure Behind (old : Renaming) (s t : Site) (todo : List Fields) : Prop where
  direct : s.queued = false
  queued : t.queued = true
  batch : 1 ≤ t.settings.batchSize
  calm : t.stream.Calm t.clockMs
  waiting : List.Forall₂ Stream.Carries t.stream.waiting (todo.filter isQueued)
  twin : ∃ ids, old ⊆ ids ∧ Twin ids s t

section Direct

variable {s : Site} {payload : Fields}

theorem visit_post (direct : s.queued = false) :
    s.visit (.post payload) = (ingest (.obj payload) s).2 := by
  rw [visit, snd_respond_creation, snd_create_of_not_queued s direct]

/-- What is not fit for the queue is rejected at once. -/
theorem visit_post_of_not_isQueued (direct : s.queued = false) (unfit : isQueued payload = false) :
    ∃ drawn, s.drawn ≤ drawn ∧ s.visit (.post payload) = { s with drawn := drawn } := by
  rcases prepare_cases payload s with ⟨fit, -⟩ | ⟨-, f, drawn, more, rejected⟩
  · rw [unfit] at fit
    cases fit
  · refine ⟨drawn, more, ?_⟩
    rw [visit_post direct, ingest_eq, accept, Act.bind_of_error (Act.bind_of_error rejected _)]

end Direct

namespace Behind

variable {old : Renaming} {s t : Site} {todo : List Fields}

/-- A payload that is not fit for the queue is not in it, and the twin does without it. -/
theorem reject (h : Behind old s t todo) {payload : Fields} (unfit : isQueued payload = false) :
    Behind old (s.visit (.post payload)) t todo := by
  obtain ⟨drawn, more, left⟩ := visit_post_of_not_isQueued h.direct unfit
  obtain ⟨ids, kept, twin⟩ := h.twin
  rw [left]
  exact ⟨h.direct, h.queued, h.batch, h.calm, h.waiting, ids, kept, twin.used more (Nat.le_refl _)⟩

/-- A payload is posted, and some of those that wait may be given up for it. -/
theorem post (h : Behind old s t todo) {payload : Fields} (readable :
    Loaded.read (Json.obj payload).spaced.toList = some (.ofJson (.obj payload))) :
    ∃ lost rest, todo ++ [payload] = lost ++ rest ∧
      (lost = [] ∨ Stream.maxLength ≤ rest.length) ∧
      (t.stream.waiting.length < Stream.maxLength → lost = []) ∧
      Behind old s (t.visit (.post payload)) rest := by
  obtain ⟨ids, kept, twin⟩ := h.twin
  rw [visit, snd_respond_creation, snd_create_of_queued t h.queued]
  rcases prepare_cases payload t with ⟨fit, r, prepared⟩ | ⟨no, f, drawn, more, rejected⟩
  case inr =>
    have unfit : (todo ++ [payload]).filter isQueued = todo.filter isQueued := by
      rw [List.filter_append, List.filter_cons_of_neg (by rw [no]; decide), List.filter_nil,
        List.append_nil]
    rw [rejected]
    exact ⟨[], todo ++ [payload], rfl, .inl rfl, fun _ => rfl, h.direct, h.queued, h.batch, h.calm,
      unfit ▸ h.waiting, ids, kept, twin.used (Nat.le_refl _) more⟩
  rw [prepared]
  dsimp only
  rw [onStream, Act.onPart_apply, Stream.enqueue]
  have calm := h.calm.append [("data", .str (Json.obj payload).spaced)]
  rw [Stream.snd_append _ (h.calm.steady _ _)] at calm ⊢
  set u := (t.stream.called.push [("data", .str (Json.obj payload).spaced)]).2
  have carried : List.Forall₂ Stream.Carries u.waiting ((todo ++ [payload]).filter isQueued) := by
    rw [List.filter_append, List.filter_cons_of_pos fit, List.filter_nil]
    exact List.rel_append h.waiting (.cons (Stream.carries_of_read readable _) .nil)
  obtain ⟨lost, rest, split, enough, room, left⟩ :=
    Stream.carries_trim carried (t.stream.surplus t.stream.calls)
  refine ⟨lost, rest, split, enough, fun few => room ?_, h.direct, h.queued, h.batch, calm, left,
    ids, kept, { twin.used (Nat.le_refl _) (Nat.le_succ _) with stores := { twin.stores with } }⟩
  have one : u.waiting.length = t.stream.waiting.length + 1 := List.length_append
  omega

/-- The worker handles a message with a payload, and the twin ingests it. -/
theorem handle (h : Behind old s t todo) {m : Message} {payload : Fields}
    (data : m.data = some (Loaded.ofFields payload)) :
    Behind old (s.visit (.post payload)) (t.handle m).2 todo := by
  obtain ⟨ids, kept, twin⟩ := h.twin
  obtain ⟨ids', more, twin'⟩ := twin.ingest (.obj payload)
  obtain ⟨drawn, primary, index, desk, -, left⟩ := ingest_frame (.obj payload) s
  obtain ⟨drawn', primary', index', desk', -, left'⟩ := ingest_frame (.obj payload) t
  rw [visit_post h.direct, Site.handle, handleBy_eq, data]
  dsimp only
  rw [ingestQueued_of_writable (LoadedFields.isUnwritable_ofFields payload),
    LoadedFields.payload_ofFields]
  dsimp only
  rw [left, left'] at twin'
  rw [left, left']
  obtain ⟨calls, pending, stats, among, concluded⟩ := conclude_frame m.id
    (.of ((Site.ingest (.obj payload) t).1.map fun _ => ())) { t with
      drawn := drawn', primary := primary', index := index', desk := desk' }
  rw [concluded]
  have calm : Stream.Calm t.clockMs { t.stream with calls := calls, pending := pending } :=
    ⟨h.calm.steady, h.calm.legible, fun p mem => h.calm.recent p (among mem)⟩
  refine ⟨h.direct, h.queued, h.batch, calm, h.waiting, ids', List.Subset.trans kept more, ?_⟩
  exact { twin' with stores := { twin'.stores with } }

/-- The worker handles messages, and the twin ingests their payloads and rejects those between them
that were not fit for the queue. -/
theorem handleAll (h : Behind old s t todo) {ran : List Fields} {ms : List Message}
    (data : List.Forall₂ (fun m payload => m.data = some (Loaded.ofFields payload)) ms
      (ran.filter isQueued)) :
    Behind old (s.visited (ran.map .post)) (handleAllBy ingestQueued ms t) todo := by
  -- On the payloads, not on the messages: between those lie payloads that have no message.
  induction ran generalizing s t ms with
  | nil =>
    cases data
    exact h
  | cons payload rest ih =>
    cases fit : isQueued payload with
    | false =>
      rw [List.filter_cons_of_neg (by rw [fit]; decide)] at data
      exact ih (h.reject fit) data
    | true =>
      rw [List.filter_cons_of_pos fit] at data
      cases data with
      | cons first others => exact ih (h.handle first) others

/-- The worker goes through a round, and the twin catches up with it. -/
theorem round (h : Behind old s t todo) : ∃ ran rest, todo = ran ++ rest ∧
    (rest.filter isQueued).length ≤ (todo.filter isQueued).length - 1 ∧
    Behind old (s.visited (ran.map .post)) (t.visit .round) rest := by
  have taken := List.forall₂_take t.settings.batchSize.toNat h.waiting
  have left := List.forall₂_drop t.settings.batchSize.toNat h.waiting
  -- The batch is the fit part of a front piece of what is yet to be ingested.
  obtain ⟨ran, rest, split, front, back⟩ := List.filter_eq_append_iff.1
    (List.take_append_drop t.settings.batchSize.toNat (todo.filter isQueued)).symm
  rw [← front] at taken
  rw [← back] at left
  obtain ⟨ms, read, data⟩ := Stream.exists_messages h.calm.legible taken
  obtain ⟨stream, waiting, calm, after⟩ := round_of_calm h.calm read
  have behind : Behind old s { t with stream := stream } rest := by
    obtain ⟨ids, kept, twin⟩ := h.twin
    exact ⟨h.direct, h.queued, h.batch, calm, waiting ▸ left, ids, kept,
      { twin with stores := { twin.stores with } }⟩
  refine ⟨ran, rest, split, ?_, ?_⟩
  · have batch := h.batch
    rw [back, List.length_drop]
    omega
  · rw [visit, after]
    exact behind.handleAll data

/-- Whatever comes to the site, its twin can catch up with what is left of it. -/
theorem visited (h : Behind old s t todo) {visits : List Visit}
    (readable : ∀ payload ∈ posted visits,
      Loaded.read (Json.obj payload).spaced.toList = some (.ofJson (.obj payload))) :
    ∃ ran rest, Surviving (ran ++ rest) (todo ++ posted visits) ∧
      (t.HasRoom visits → ran ++ rest = todo ++ posted visits) ∧
      Behind old (s.visited (ran.map .post)) (t.visited visits) rest := by
  -- A payload that is posted joins what is yet to be ingested, a round takes a front piece of it.
  induction visits generalizing s t todo with
  | nil =>
    have all : todo ++ posted [] = todo := List.append_nil todo
    exact ⟨[], todo, all.symm ▸ .refl todo, fun _ => all.symm, h⟩
  | cons v later ih =>
    cases v with
    | post payload =>
      have all : todo ++ posted (.post payload :: later) = (todo ++ [payload]) ++ posted later :=
        List.append_cons _ _ _
      obtain ⟨lost, todo', split, enough, room, behind⟩ :=
        h.post (readable payload List.mem_cons_self)
      obtain ⟨ran, rest, left, whole, behind'⟩ :=
        ih behind fun payload mem => readable payload (List.mem_cons_of_mem _ mem)
      rw [all, split, List.append_assoc]
      refine ⟨ran, rest, left.lost ?_, ?_, behind'⟩
      · refine enough.imp_right fun many => many.trans ?_
        rw [List.length_append]
        exact Nat.le_add_right _ _
      · rintro ⟨few, later⟩
        rw [room few, whole later]
        rfl
    | round =>
      obtain ⟨ran, todo', split, -, behind⟩ := h.round
      obtain ⟨ran', rest, left, whole, behind'⟩ := ih behind readable
      have all : todo ++ posted (.round :: later) = ran ++ (todo' ++ posted later) := by
        rw [split, List.append_assoc]
        rfl
      rw [all]
      refine ⟨ran ++ ran', rest, ?_, fun room => ?_, ?_⟩
      · rw [List.append_assoc]
        exact left.append ran
      · rw [List.append_assoc, whole room]
      · rw [List.map_append, visited_append]
        exact behind'

/-- Where nothing waits, what has yet to be ingested makes no difference. -/
theorem finish (h : Behind old s t todo) (empty : t.stream.waiting = []) :
    Behind old (s.visited (todo.map .post)) t [] := by
  have none : todo.filter isQueued = [] := by
    have waiting := h.waiting
    rw [empty] at waiting
    exact List.forall₂_nil_left_iff.1 waiting
  have idle : Behind old s t [] := { h with waiting := empty ▸ .nil }
  have data : List.Forall₂ (fun m payload => Message.data m = some (Loaded.ofFields payload)) []
      (todo.filter isQueued) := none ▸ .nil
  exact idle.handleAll data

end Behind

/-- The identifiers of records and of documents. -/
def usedIds (s : Site) : List String :=
  s.primary.records.map (·.id) ++ s.index.documents.map (·.1)

/-- No identifier that is still to be drawn is in use. -/
def DrawsNew (s : Site) : Prop :=
  ∀ n, s.drawn < n → "log-" ++ toString n ∉ s.usedIds

/-- A site is its own twin. -/
theorem DrawsNew.twin {s : Site} (new : s.DrawsNew) :
    Twin (s.usedIds.dedup.map fun id => (id, id)) s s := by
  have named : ∀ id ∈ s.usedIds, (id, id) ∈ s.usedIds.dedup.map fun id => (id, id) :=
    fun id mem => List.mem_map.2 ⟨id, List.mem_dedup.2 mem, rfl⟩
  have left : (s.usedIds.dedup.map fun id => (id, id)).map (·.1) = s.usedIds.dedup := by
    rw [List.map_map]
    exact List.map_id _
  have right : (s.usedIds.dedup.map fun id => (id, id)).map (·.2) = s.usedIds.dedup := by
    rw [List.map_map]
    exact List.map_id _
  refine ⟨rfl, rfl, rfl, ⟨rfl, rfl, ?_, ⟨rfl, ?_⟩, .refl s.desk⟩, ⟨?_, ?_⟩, ?_, ?_⟩
  · rw [List.forall₂_same]
    exact fun r mem => ⟨named r.id (List.mem_append_left _ (List.mem_map_of_mem mem)), rfl⟩
  · rw [List.forall₂_same]
    exact fun d mem => ⟨named d.1 (List.mem_append_right _ (List.mem_map_of_mem mem)), .inl rfl⟩
  · rw [left]
    exact List.nodup_dedup _
  · rw [right]
    exact List.nodup_dedup _
  · intro n above mem
    rw [left, List.mem_dedup] at mem
    exact new n above mem
  · intro n above mem
    rw [right, List.mem_dedup] at mem
    exact new n above mem

end Site

end Logbook

import Logbook.Proofs.Act
import Logbook.Proofs.Alarm.Desk
import Mathlib.Data.List.Forall2

/-!
# Alarms under other identifiers

The identifier of a log has no part in what happens to it: neither in the rules that it matches nor
in the key of its event, and an alarm for it only names it. So two desks that agree but for the
identifiers of logs raise the same alarms for a log that each knows under its own identifier, and
agree again (`Desk.Renamed.raiseAlarms`), whatever fails.
-/

namespace Logbook

/-- Which identifiers stand for each other. -/
abbrev Renaming := List (String × String)

/-- The same log under another identifier. -/
def LogEntry.Renamed (ids : Renaming) (r r' : LogEntry) : Prop :=
  (r.id, r'.id) ∈ ids ∧ r' = { r with id := r'.id }

/-- The alarm payloads of one log under two identifiers. -/
def PayloadRenamed (ids : Renaming) (p p' : Fields) : Prop :=
  ∃ (r : LogEntry) (id id' name base : String), (id, id') ∈ ids ∧
    alarmPayload r.toFields id name base = .ok p ∧ alarmPayload r.toFields id' name base = .ok p'

/-- The same body, or what a channel makes of two such payloads: the data, a chat message, or an
e-mail. -/
inductive Content.Renamed (ids : Renaming) : Content → Content → Prop where
  | same (c : Content) : Renamed ids c c
  | data {p p' : Fields} (payloads : PayloadRenamed ids p p') :
    Renamed ids (.json (.obj p)) (.json (.obj p'))
  | chat {p p' : Fields} {text text' : String} (payloads : PayloadRenamed ids p p')
    (written : Render.text p = .ok text) (written' : Render.text p' = .ok text') :
    Renamed ids (.json (.obj [("text", .str text)])) (.json (.obj [("text", .str text')]))
  | mail {p p' : Fields} {subject html html' : String} (payloads : PayloadRenamed ids p p')
    (m : MailAccount) (addresses : List String) (titled : Render.subject p = .ok subject)
    (titled' : Render.subject p' = .ok subject) (written : Render.html p = .ok html)
    (written' : Render.html p' = .ok html') :
    Renamed ids (m.message addresses subject html) (m.message addresses subject html')

/-- The same request, but for the identifiers in its body. -/
structure Request.Renamed (ids : Renaming) (r r' : Request) : Prop where
  url : r'.url = r.url
  authorization : r'.authorization = r.authorization
  content : Content.Renamed ids r.content r'.content

/-- The same answers, and the same requests but for identifiers. -/
structure Outbox.Renamed (ids : Renaming) (box box' : Outbox) : Prop where
  replies : box'.replies = box.replies
  sent : List.Forall₂ (Request.Renamed ids) box.sent box'.sent

/-- What is remembered of an event under a log's identifier. -/
def noteOf (logId : String) : Json :=
  .obj [("logId", .str logId)]

/-- The same entry of a cache, but for the identifier that it remembers. -/
structure CacheEntry.Renamed (ids : Renaming) (e e' : String × CacheEntry) : Prop where
  key : e'.1 = e.1
  expiry : e'.2.expiry = e.2.expiry
  value : e'.2.value = e.2.value ∨
    ∃ id id', (id, id') ∈ ids ∧ e.2.value = noteOf id ∧ e'.2.value = noteOf id'

/-- The same cache, but for the identifiers that it remembers. -/
structure Cache.Renamed (ids : Renaming) (c c' : Cache) : Prop where
  frame : c' = { c with entries := c'.entries }
  entries : List.Forall₂ (CacheEntry.Renamed ids) c.entries c'.entries

/-- The same desk, but for the identifiers of logs. -/
structure Desk.Renamed (ids : Renaming) (d d' : Desk) : Prop where
  cache : Cache.Renamed ids d.cache d'.cache
  outbox : Outbox.Renamed ids d.outbox d'.outbox

section EndAlike

variable {α σ : Type} {R : σ → σ → Prop} {x x' : α × σ}

/-- Two calls end alike: with the same result, and in related states. -/
def EndAlike (R : σ → σ → Prop) (x x' : α × σ) : Prop :=
  x.1 = x'.1 ∧ R x.2 x'.2

theorem EndAlike.cases (h : EndAlike R x x') :
    ∃ a s s', x = (a, s) ∧ x' = (a, s') ∧ R s s' :=
  ⟨x.1, x.2, x'.2, rfl, Prod.ext h.1.symm rfl, h.2⟩

end EndAlike

section Payload

variable {ids : Renaming} {p p' : Fields}

theorem PayloadRenamed.worded (h : PayloadRenamed ids p p') :
    Delivery.Worded p ∧ Delivery.Worded p' := by
  obtain ⟨r, id, id', name, base, -, written, written'⟩ := h
  exact ⟨Delivery.worded_of_payload written, Delivery.worded_of_payload written'⟩

/-- Subjects name no logs, and a payload can be written as data whatever it names. -/
theorem PayloadRenamed.alike (h : PayloadRenamed ids p p') :
    Render.subject p' = Render.subject p ∧
      (Json.obj p').hasUnbounded = (Json.obj p).hasUnbounded := by
  obtain ⟨r, id, id', name, base, -, written, written'⟩ := h
  obtain ⟨stamp, rfl⟩ := LogEntry.exists_stamp written
  obtain ⟨stamp', rfl⟩ := LogEntry.exists_stamp written'
  refine ⟨rfl, ?_⟩
  simp only [LogEntry.payload, Json.hasUnbounded, Json.hasUnboundedField]

theorem Content.Renamed.isWritable {c c' : Content} (h : Content.Renamed ids c c') :
    c'.isWritable = c.isWritable := by
  cases h with
  | same c => rfl
  | data payloads => exact congrArg (!·) payloads.alike.2
  | chat payloads written written' => rfl
  | mail payloads m addresses => rfl

end Payload

section Delivery

variable {ids : Renaming}

/-- Requests that differ in identifiers alone are answered alike. -/
theorem Outbox.matches_post (channel address : String) (authorization : Option String)
    {c c' : Content} (same : Content.Renamed ids c c') :
    (post channel address authorization c).Matches (Renamed ids)
      (post channel address authorization c') := by
  intro box box' related
  unfold post
  rw [same.isWritable]
  refine (Act.matches_ofExcept (WebAddress.ofText address)).bind (fun a => ?_) box box' related
  intro box box' related
  have url : (Request.addressed a authorization c').url =
    (Request.addressed a authorization c).url := rfl
  cases c.isWritable with
  | false => exact ⟨rfl, related⟩
  | true =>
    have sent : Renamed ids { box with sent := box.sent ++ [.addressed a authorization c] }
        { replies := box.replies, sent := box'.sent ++ [.addressed a authorization c'] } :=
      ⟨rfl, List.rel_append related.sent (.cons ⟨rfl, rfl, same⟩ .nil)⟩
    simp only [Bool.not_true, Bool.false_eq_true, if_false, Act.bind_apply, Act.get_apply,
      Act.set_apply, url, related.replies]
    cases (box.replies (Request.addressed a authorization c).url).fault? channel a.isAbsolute with
    | some f => exact ⟨rfl, sent⟩
    | none => exact ⟨rfl, sent⟩

namespace Delivery

/-- The same delivery over the same channel, but for identifiers. -/
def Alike (ids : Renaming) (d d' : String × Act Outbox Bool) : Prop :=
  d'.1 = d.1 ∧ d.2.Matches (Outbox.Renamed ids) d'.2

theorem alike_map {α : Type} {f g : α → String × Act Outbox Bool} (as : List α)
    (alike : ∀ a, Alike ids (f a) (g a)) : List.Forall₂ (Alike ids) (as.map f) (as.map g) := by
  rw [List.forall₂_map_left_iff, List.forall₂_map_right_iff, List.forall₂_same]
  exact fun a _ => alike a

/-- The deliveries of two payloads are alike one by one. -/
theorem alike_sends {p p' : Fields} (h : PayloadRenamed ids p p') (mail : MailAccount)
    (plan : DeliveryPlan) : ∃ ds ds', sends mail plan p = .ok ds ∧ sends mail plan p' = .ok ds' ∧
      List.Forall₂ (Alike ids) ds ds' := by
  obtain ⟨worded, worded'⟩ := h.worded
  obtain ⟨subject, titled⟩ := worded.exists_subject
  have titled' := h.alike.1.trans titled
  obtain ⟨html, paged⟩ := worded.exists_html
  obtain ⟨html', paged'⟩ := worded'.exists_html
  obtain ⟨text, written⟩ := worded.exists_text
  obtain ⟨text', written'⟩ := worded'.exists_text
  refine ⟨_, _, sends_of_texts titled paged written mail plan,
    sends_of_texts titled' paged' written' mail plan, ?_⟩
  have mails : ∀ addresses, Alike ids ("email", email mail addresses subject html)
      ("email", email mail addresses subject html') := by
    refine fun addresses => ⟨rfl, ?_⟩
    unfold email
    dsimp only
    split
    · exact (Outbox.matches_post "email" _ _ (.mail h mail addresses titled titled' paged
        paged')).bind fun _ => Act.matches_pure true
    · exact Act.matches_pure false
  have chats : ∀ url, Alike ids ("slack", chat url (.str text)) ("slack", chat url (.str text')) :=
    fun url => ⟨rfl, (Outbox.matches_post "slack" url none (.chat h written written')).bind
      fun _ => Act.matches_pure true⟩
  have hooks : ∀ url, Alike ids ("webhook", webhook url (.obj p))
      ("webhook", webhook url (.obj p')) :=
    fun url => ⟨rfl, (Outbox.matches_post "webhook" url none (.data h)).bind
      fun _ => Act.matches_pure true⟩
  exact List.rel_append (List.rel_append (alike_map plan.email.toList mails)
    (alike_map plan.chat.toList chats)) (alike_map plan.webhook.toList hooks)

/-- Alike deliveries end alike. -/
theorem deliver_alike {send send' : Act Outbox Bool}
    (same : send.Matches (Outbox.Renamed ids) send') {box box' : Outbox}
    (related : Outbox.Renamed ids box box') :
    EndAlike (Outbox.Renamed ids) (deliver send box) (deliver send' box') := by
  obtain ⟨result, after, after', ran, ran', left⟩ := EndAlike.cases (same box box' related)
  unfold deliver
  rw [ran, ran']
  cases result with
  | error f => exact ⟨rfl, left⟩
  | ok b => exact ⟨rfl, left⟩

theorem deliverAll_alike {ds ds' : List (String × Act Outbox Bool)}
    (same : List.Forall₂ (Alike ids) ds ds') {box box' : Outbox}
    (related : Outbox.Renamed ids box box') :
    EndAlike (Outbox.Renamed ids) (deliverAll ds box) (deliverAll ds' box') := by
  induction same generalizing box box' with
  | nil => exact ⟨rfl, related⟩
  | @cons d d' ds ds' first _ ih =>
    obtain ⟨channel, same⟩ := first
    obtain ⟨result, left⟩ := deliver_alike same related
    obtain ⟨results, lefts⟩ := ih left
    refine ⟨?_, lefts⟩
    exact congrArg₂ List.cons (congrArg₂ Prod.mk channel.symm result) results

/-- Payloads that differ in identifiers alone are delivered alike. -/
theorem matches_dispatch {p p' : Fields} (h : PayloadRenamed ids p p') (mail : MailAccount)
    (rule : AlarmRule) :
    (dispatch mail rule p).Matches (Outbox.Renamed ids) (dispatch mail rule p') := by
  intro box box' related
  obtain ⟨ds, ds', prepared, prepared', alike⟩ := alike_sends h mail rule.delivery
  obtain ⟨results, left⟩ := deliverAll_alike alike related
  unfold dispatch
  rw [prepared, prepared', Act.bind_of_ok (Act.ofExcept_ok ds box),
    Act.bind_of_ok (Act.ofExcept_ok ds' box')]
  exact ⟨congrArg Except.ok results, left⟩

end Delivery

end Delivery

namespace Cache

variable {ids : Renaming} {c c' : Cache}

theorem Renamed.lookup {es es' : List (String × CacheEntry)}
    (h : List.Forall₂ (CacheEntry.Renamed ids) es es') (key : String) :
    (es'.lookup key).map (·.expiry) = (es.lookup key).map (·.expiry) := by
  induction h with
  | nil => rfl
  | @cons e e' es es' first _ ih =>
    obtain ⟨k, e⟩ := e
    obtain ⟨k', e'⟩ := e'
    obtain ⟨rfl, expiry, -⟩ := first
    rw [Keyed.lookup_cons_eq, Keyed.lookup_cons_eq]
    split
    · exact congrArg some expiry
    · exact ih

theorem Renamed.put {es es' : List (String × CacheEntry)}
    (h : List.Forall₂ (CacheEntry.Renamed ids) es es') {key : String} {e e' : CacheEntry}
    (new : CacheEntry.Renamed ids (key, e) (key, e')) :
    List.Forall₂ (CacheEntry.Renamed ids) (Keyed.put key e es) (Keyed.put key e' es') := by
  induction h with
  | nil => exact .cons new .nil
  | @cons f f' es es' first rest ih =>
    obtain ⟨k, f⟩ := f
    obtain ⟨k', f'⟩ := f'
    have same : k' = k := first.key
    subst same
    unfold Keyed.put
    split
    · next same =>
      subst same
      exact .cons new rest
    · exact .cons first ih

/-- A key is live in both caches or in neither. -/
theorem Renamed.live {es es' : List (String × CacheEntry)}
    (h : List.Forall₂ (CacheEntry.Renamed ids) es es') (now : Int) (key : String) :
    (({ c with entries := es' } : Cache).live? now key).isSome =
      (({ c with entries := es } : Cache).live? now key).isSome := by
  have known := Renamed.lookup h key
  unfold live?
  dsimp only
  rw [Option.isSome_filter, Option.isSome_filter]
  cases found : es.lookup key <;> cases found' : es'.lookup key <;> rw [found, found'] at known <;>
    simp_all

/-- A cache decides about a key alike, whatever identifier it is to remember. -/
theorem Renamed.putNew (h : Renamed ids c c') {id id' : String} (named : (id, id') ∈ ids)
    (now : Int) (key : String) (seconds : Int) :
    EndAlike (Renamed ids) (c.putNew now key (noteOf id) seconds)
      (c'.putNew now key (noteOf id') seconds) := by
  obtain ⟨frame, entries⟩ := h
  generalize c'.entries = es' at frame entries
  subst frame
  have live := Renamed.live (c := c) entries now (c.fullKey key)
  have noted : CacheEntry.Renamed ids (c.fullKey key, ⟨noteOf id, now + seconds * 1000⟩)
      (c.fullKey key, ⟨noteOf id', now + seconds * 1000⟩) :=
    ⟨rfl, rfl, .inr ⟨id, id', named, rfl, rfl⟩⟩
  have key' : ({ c with entries := es' } : Cache).fullKey key = c.fullKey key := rfl
  have open' : ({ c with entries := es' } : Cache).isOpen = c.isOpen := rfl
  have fails' : ({ c with entries := es' } : Cache).fails .write = c.fails .write := rfl
  unfold Cache.putNew
  rw [key', open', fails', live]
  cases c.isOpen with
  | false => exact ⟨rfl, rfl, entries⟩
  | true =>
    cases c.fails .write with
    | true => exact ⟨rfl, rfl, entries⟩
    | false =>
      cases (c.live? now (c.fullKey key)).isSome with
      | true => exact ⟨rfl, rfl, entries⟩
      | false => exact ⟨rfl, rfl, Renamed.put entries noted⟩

end Cache

/-- The same alert, but for the identifiers of its log. -/
structure Alert.Renamed (ids : Renaming) (a a' : Alert) : Prop where
  log : a'.log = { a.log with id := a'.log.id }
  logId : (a.logId, a'.logId) ∈ ids
  project : a'.project = a.project
  now : a'.now = a.now

namespace Desk

variable {ids : Renaming} {d d' : Desk} (policy : AlarmPolicy) {a a' : Alert}

/-- Rules look at nothing but fields of a log that its identifier has no part in. -/
theorem matchingRule?_renamed (alike : a.Renamed ids a') (raw : Json) :
    matchingRule? raw a'.occasion.log = matchingRule? raw a.occasion.log := by
  have accepts (rule : AlarmRule) : rule.accepts a'.log.toFields = rule.accepts a.log.toFields := by
    rw [alike.log]
    rfl
  unfold matchingRule?
  simp only [Alert.occasion, accepts]

/-- Whether an alarm can be put into words does not depend on the identifier that it names. -/
theorem alarmPayload_cases (alike : a.Renamed ids a') :
    (∃ f, a.payload policy = .error f ∧ a'.payload policy = .error f) ∨
      ∃ p p', a.payload policy = .ok p ∧ a'.payload policy = .ok p' ∧ PayloadRenamed ids p p' := by
  have other : a'.payload policy =
      alarmPayload a.log.toFields a'.logId a.project.name policy.baseUrl := by
    rw [Alert.payload, alike.log, alike.project]
    rfl
  rw [other]
  unfold Alert.payload
  rw [LogEntry.alarmPayload_toFields, LogEntry.alarmPayload_toFields]
  cases shown : stampText (.int a.log.timestampMs) with
  | error f => exact .inl ⟨f, rfl, rfl⟩
  | ok stamp =>
    have written (id : String) : alarmPayload a.log.toFields id a.project.name policy.baseUrl =
        .ok (a.log.payload id a.project.name policy.baseUrl stamp) := by
      rw [LogEntry.alarmPayload_toFields, shown]
      rfl
    exact .inr ⟨_, _, rfl, rfl, a.log, _, _, _, _, alike.logId, written _, written _⟩

theorem Renamed.seenRecently (h : Renamed ids d d') (alike : a.Renamed ids a') :
    EndAlike (Renamed ids) (d.seenRecently policy a.occasion)
      (d'.seenRecently policy a'.occasion) := by
  have link : d'.cache.isOpen = d.cache.isOpen := by
    rw [h.cache.frame]
    rfl
  have key : a'.key = a.key := by
    rw [Alert.key, alike.log]
    rfl
  cases connected : d.cache.isOpen with
  | false =>
    unfold Desk.seenRecently
    rw [link, connected]
    exact ⟨rfl, h⟩
  | true =>
    obtain ⟨decided, left⟩ := h.cache.putNew alike.logId a.now a.key policy.debounceSeconds
    rw [seenRecently_occasion connected, seenRecently_occasion (link.trans connected), key,
      alike.now]
    exact ⟨congrArg (fun b => Except.ok !b) decided, left, h.outbox⟩

theorem Renamed.suppresses (h : Renamed ids d d') (alike : a.Renamed ids a') (p : Progress) :
    EndAlike (Renamed ids) (d.suppresses policy a.occasion p)
      (d'.suppresses policy a'.occasion p) := by
  unfold Desk.suppresses
  cases p.suppressed with
  | some b => exact ⟨rfl, h⟩
  | none => exact h.seenRecently policy alike

theorem Renamed.send (h : Renamed ids d d') (alike : a.Renamed ids a') (rule : AlarmRule) :
    EndAlike (Renamed ids) (d.send policy a.occasion rule) (d'.send policy a'.occasion rule) := by
  have told (b : Alert) : alarmPayload b.occasion.log b.occasion.logId b.occasion.project.name
    policy.baseUrl = b.payload policy := rfl
  unfold Desk.send
  rw [told, told]
  rcases alarmPayload_cases policy alike with
    ⟨f, unwritten, unwritten'⟩ | ⟨p, p', payload, payload', same⟩
  · rw [unwritten, unwritten']
    exact ⟨rfl, h⟩
  · obtain ⟨result, box, box', ran, ran', left⟩ := EndAlike.cases
      (Delivery.matches_dispatch same policy.mail rule d.outbox d'.outbox h.outbox)
    rw [payload, payload']
    dsimp only
    rw [ran, ran']
    cases result with
    | error f => exact ⟨rfl, h.cache, left⟩
    | ok delivered => exact ⟨rfl, h.cache, left⟩

theorem Renamed.consider (h : Renamed ids d d') (alike : a.Renamed ids a') (raw : Json)
    (p : Progress) :
    EndAlike (Renamed ids) (d.consider policy a.occasion raw p)
      (d'.consider policy a'.occasion raw p) := by
  unfold Desk.consider
  rw [matchingRule?_renamed alike]
  cases matchingRule? raw a.occasion.log with
  | none => exact ⟨rfl, h⟩
  | some rule =>
    obtain ⟨decision, after, after', ran, ran', left⟩ :=
      (h.suppresses policy alike p).cases
    dsimp only
    rw [ran, ran']
    cases decision with
    | error f => exact ⟨rfl, left⟩
    | ok suppressed =>
      cases suppressed with
      | true => exact ⟨rfl, left⟩
      | false =>
        obtain ⟨complete, last, last', ran, ran', left⟩ :=
          (left.send policy alike rule).cases
        dsimp only
        rw [ran, ran']
        cases complete with
        | true => exact ⟨rfl, left⟩
        | false => exact ⟨rfl, left⟩

theorem Renamed.considerAll (h : Renamed ids d d') (alike : a.Renamed ids a') (raws : List Json)
    (p : Progress) :
    EndAlike (Renamed ids) (d.considerAll policy a.occasion raws p)
      (d'.considerAll policy a'.occasion raws p) := by
  induction raws generalizing d d' p with
  | nil => exact ⟨rfl, h⟩
  | cons raw rest ih =>
    obtain ⟨progress, after, after', ran, ran', left⟩ :=
      (h.consider policy alike raw p).cases
    unfold Desk.considerAll
    rw [ran, ran']
    exact ih left progress

/-- Alarms for a log are raised alike under each of its identifiers. -/
theorem Renamed.raiseAlarms (h : Renamed ids d d') (alike : a.Renamed ids a') :
    EndAlike (Renamed ids) (d.raiseAlarms policy a.occasion)
      (d'.raiseAlarms policy a'.occasion) := by
  have project : a'.occasion.project = a.occasion.project := alike.project
  unfold Desk.raiseAlarms
  rw [project]
  cases alarmRules a.occasion.project.alarms with
  | error f => exact ⟨rfl, h⟩
  | ok raws =>
    obtain ⟨progress, after, after', ran, ran', left⟩ :=
      (h.considerAll policy alike raws {}).cases
    dsimp only
    rw [ran, ran']
    exact ⟨rfl, left⟩

/-- A desk is the same as itself, whatever identifiers stand for each other. -/
theorem Renamed.refl (d : Desk) : Renamed ids d d where
  cache := by
    refine ⟨rfl, ?_⟩
    rw [List.forall₂_same]
    exact fun e _ => ⟨rfl, rfl, .inl rfl⟩
  outbox := by
    refine ⟨rfl, ?_⟩
    rw [List.forall₂_same]
    exact fun r _ => ⟨rfl, rfl, .same r.content⟩

end Desk

section Mono

variable {ids ids' : Renaming} (more : ids ⊆ ids')

include more

theorem LogEntry.Renamed.mono {r r' : LogEntry} (h : r.Renamed ids r') : r.Renamed ids' r' :=
  ⟨more h.1, h.2⟩

theorem PayloadRenamed.mono {p p' : Fields} (h : PayloadRenamed ids p p') :
    PayloadRenamed ids' p p' := by
  obtain ⟨r, id, id', name, base, named, written⟩ := h
  exact ⟨r, id, id', name, base, more named, written⟩

theorem Content.Renamed.mono {c c' : Content} (h : Content.Renamed ids c c') :
    Content.Renamed ids' c c' := by
  cases h with
  | same c => exact .same c
  | data payloads => exact .data (payloads.mono more)
  | chat payloads written written' => exact .chat (payloads.mono more) written written'
  | mail payloads m addresses titled titled' written written' =>
    exact .mail (payloads.mono more) m addresses titled titled' written written'

theorem Desk.Renamed.mono {d d' : Desk} (h : Desk.Renamed ids d d') : Desk.Renamed ids' d d' where
  cache := by
    refine ⟨h.cache.frame, h.cache.entries.imp fun e e' same => ⟨same.key, same.expiry, ?_⟩⟩
    rcases same.value with old | ⟨id, id', named, noted⟩
    · exact .inl old
    · exact .inr ⟨id, id', more named, noted⟩
  outbox := ⟨h.outbox.replies, h.outbox.sent.imp fun _ _ same =>
    ⟨same.url, same.authorization, same.content.mono more⟩⟩

end Mono

end Logbook

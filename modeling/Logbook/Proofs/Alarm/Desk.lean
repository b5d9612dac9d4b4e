import Logbook.Alarm.Desk
import Logbook.Proofs.Alarm.Payload

/-!
# Raising the alarms of a stored log

What becomes of one log at a desk with a healthy cache. A stored log has a key, every alarm for it
can be put into words once its time can be shown, and one decision is shared by all rules that it
matches. So there are four outcomes: no rule matches, and nothing happens; the key is live, and
only the cache is asked; the key is acquired, and the alarms of all matching rules are sent; or the
key is acquired and the time of the log cannot be shown, and none is sent.
-/

namespace Logbook

namespace LogEntry

/-- The key of the event that a log reports. -/
def eventKey (r : LogEntry) : String :=
  Logbook.eventKey r.projectId r.logType.name r.environment r.level r.message

/-- An empty text counts as given where the empty text is put in for what is not given. -/
theorem orElse_blank (s : String) : (Json.str s).orElse (.str "") = .str s := by
  by_cases blank : s = "" <;> simp [Json.orElse, Json.truthy, blank]

theorem keyOfLog_toFields (r : LogEntry) : keyOfLog r.toFields = .ok r.eventKey := by
  have project : r.toFields.lookup "project_id" = some (.str r.projectId) := rfl
  have logType : (r.toFields.get "log_type").orElse (.str "application") = .str r.logType.name := by
    have field : r.toFields.get "log_type" = .str r.logType.name := rfl
    rw [field]
    cases r.logType <;> rfl
  have environment : r.toFields.get "environment" = .str r.environment := rfl
  have level : r.toFields.get "level" = .str r.level := rfl
  have message : r.toFields.get "message" = .str r.message := rfl
  rw [keyOfLog, project]
  simp only [logType, environment, level, message, orElse_blank]
  rfl

end LogEntry

namespace Delivery

/-- The requests for the alarms of some rules, sent one rule after the other. -/
def dispatchAll (mail : MailAccount) (payload : Fields) (rules : List AlarmRule) (box : Outbox) :
    Outbox :=
  rules.foldl (fun box rule => (dispatch mail rule payload box).2) box

/-- The parts of a payload that texts are made of. -/
structure Worded (payload : Fields) : Prop where
  shown : ∀ name ∈ ["projectName", "level", "environment", "logType", "timestamp", "hostname"],
    ∃ v, Render.part payload name = .ok v
  texts : ∀ name ∈ ["message", "stackTrace", "link"], ∃ s, Render.part payload name = .ok (.str s)
  request : ∃ fs, Render.part payload "request" = .ok (.obj fs)

/-- The payload for a stored log has all parts that its texts need. -/
theorem worded_of_payload {r : LogEntry} {logId name base : String} {payload : Fields}
    (written : alarmPayload r.toFields logId name base = .ok payload) : Worded payload := by
  obtain ⟨stamp, rfl⟩ := LogEntry.exists_stamp written
  constructor
  · simp only [List.forall_mem_cons, List.not_mem_nil, false_implies, implies_true, and_true]
    exact ⟨⟨_, rfl⟩, ⟨_, rfl⟩, ⟨_, rfl⟩, ⟨_, rfl⟩, ⟨_, rfl⟩, ⟨_, rfl⟩⟩
  · simp only [List.forall_mem_cons, List.not_mem_nil, false_implies, implies_true, and_true]
    exact ⟨⟨_, rfl⟩, ⟨_, rfl⟩, ⟨_, rfl⟩⟩
  · exact ⟨_, rfl⟩

/-- The texts of a payload decide what is delivered. -/
theorem sends_of_texts {p : Fields} {subject html text : String}
    (titled : Render.subject p = .ok subject) (paged : Render.html p = .ok html)
    (written : Render.text p = .ok text) (mail : MailAccount) (plan : DeliveryPlan) :
    sends mail plan p = .ok
      (plan.email.toList.map (fun addresses => ("email", email mail addresses subject html)) ++
        plan.chat.toList.map (fun url => ("slack", chat url (.str text))) ++
        plan.webhook.toList.map fun url => ("webhook", webhook url (.obj p))) := by
  obtain ⟨addresses, url, hook⟩ := plan
  unfold sends
  cases addresses <;> cases url <;>
    simp [titled, paged, written, bind, Except.bind, pure, Except.pure]

namespace Worded

variable {payload : Fields}

theorem exists_subject (w : Worded payload) : ∃ s, Render.subject payload = .ok s := by
  obtain ⟨project, p⟩ := w.shown "projectName" (by simp)
  obtain ⟨level, l⟩ := w.shown "level" (by simp)
  obtain ⟨environment, e⟩ := w.shown "environment" (by simp)
  obtain ⟨message, m⟩ := w.texts "message" (by simp)
  simp only [Render.subject, Render.shown, p, l, e, m, Render.firstOf]
  exact ⟨_, rfl⟩

/-- A line that may stand or not is written if it can be written. -/
theorem exists_lineIf (write : Json → Except Fault String) {name line : String} {v : Json}
    (given : Render.part payload name = .ok v) (written : write v = .ok line) :
    ∃ lines, Render.lineIf payload name write = .ok lines := by
  simp only [Render.lineIf, given, bind, Except.bind, written]
  cases v.truthy <;> exact ⟨_, rfl⟩

theorem exists_text (w : Worded payload) : ∃ s, Render.text payload = .ok s := by
  obtain ⟨project, p⟩ := w.shown "projectName" (by simp)
  obtain ⟨level, l⟩ := w.shown "level" (by simp)
  obtain ⟨environment, e⟩ := w.shown "environment" (by simp)
  obtain ⟨timestamp, t⟩ := w.shown "timestamp" (by simp)
  obtain ⟨host, h⟩ := w.shown "hostname" (by simp)
  obtain ⟨message, m⟩ := w.texts "message" (by simp)
  obtain ⟨stack, s⟩ := w.texts "stackTrace" (by simp)
  obtain ⟨link, k⟩ := w.texts "link" (by simp)
  obtain ⟨request, r⟩ := w.request
  obtain ⟨hostLines, hostWritten⟩ := exists_lineIf
    (fun v => return "*Host*: `" ++ v.display ++ "`") h rfl
  obtain ⟨stackLines, stackWritten⟩ := exists_lineIf
    (fun v => return "```" ++ (← Render.firstOf 1500 v) ++ "```") s rfl
  simp only [Render.text, Render.shown, Render.metadata, p, l, e, t, m, k, r, hostWritten,
    stackWritten]
  exact ⟨_, rfl⟩

theorem exists_html (w : Worded payload) : ∃ s, Render.html payload = .ok s := by
  obtain ⟨project, p⟩ := w.shown "projectName" (by simp)
  obtain ⟨level, l⟩ := w.shown "level" (by simp)
  obtain ⟨environment, e⟩ := w.shown "environment" (by simp)
  obtain ⟨logType, y⟩ := w.shown "logType" (by simp)
  obtain ⟨timestamp, t⟩ := w.shown "timestamp" (by simp)
  obtain ⟨host, h⟩ := w.shown "hostname" (by simp)
  obtain ⟨message, m⟩ := w.texts "message" (by simp)
  obtain ⟨stack, s⟩ := w.texts "stackTrace" (by simp)
  obtain ⟨link, k⟩ := w.texts "link" (by simp)
  obtain ⟨request, r⟩ := w.request
  obtain ⟨block, written⟩ : ∃ block, Render.stackBlock payload = .ok block := by
    simp only [Render.stackBlock, s, bind, Except.bind]
    cases (Json.str stack).truthy <;> exact ⟨_, rfl⟩
  simp only [Render.html, Render.page, Render.metadata, p, l, e, y, t, h, m, k, r, written]
  exact ⟨_, rfl⟩

/-- The deliveries that a rule asks for can all be prepared. -/
theorem exists_sends (w : Worded payload) (mail : MailAccount) (plan : DeliveryPlan) :
    ∃ sends, Delivery.sends mail plan payload = .ok sends := by
  obtain ⟨subject, titled⟩ := w.exists_subject
  obtain ⟨html, paged⟩ := w.exists_html
  obtain ⟨text, written⟩ := w.exists_text
  exact ⟨_, sends_of_texts titled paged written mail plan⟩

end Worded

/-- The alarm for a stored log is put into words for every rule. -/
theorem dispatch_of_payload {r : LogEntry} {logId name base : String} {payload : Fields}
    (written : alarmPayload r.toFields logId name base = .ok payload) (mail : MailAccount)
    (rule : AlarmRule) (box : Outbox) :
    ∃ delivered, (dispatch mail rule payload box).1 = .ok delivered := by
  obtain ⟨sends, prepared⟩ := (worded_of_payload written).exists_sends mail rule.delivery
  unfold dispatch
  rw [prepared, Act.bind_of_ok (Act.ofExcept_ok sends box)]
  exact ⟨_, rfl⟩

end Delivery

namespace Cache

/-- Connected, and no call fails. -/
structure Healthy (c : Cache) : Prop where
  connected : c.isOpen = true
  steady : ∀ n call, c.outage n call = none

/-- A healthy cache takes a value exactly if none is live under the key. -/
theorem putNew_healthy {c : Cache} (h : c.Healthy) (now : Int) (key : String) (value : Json)
    (seconds : Int) : c.putNew now key value seconds =
      if (c.live? now (c.fullKey key)).isSome then (false, c.called)
      else (true, c.called.store now (c.fullKey key) value seconds) := by
  simp [putNew, h.connected, fails, h.steady]

end Cache

/-- The valid rules that a log matches, in order, among the rules of a project as they were given. -/
def matchingRules (alarms : Json) (log : LogEntry) : List AlarmRule :=
  match alarmRules alarms with
  | .ok raws => raws.filterMap (Desk.matchingRule? · log.toFields)
  | .error _ => []

/-- An occasion to raise the alarms of a project about a stored log, at a time in milliseconds. -/
structure Alert where
  log : LogEntry
  logId : String
  project : Project
  now : Int

namespace Alert

/-- What the desk is told. -/
def occasion (a : Alert) : Occasion :=
  ⟨a.log.toFields, a.logId, a.project, a.now⟩

/-- The valid rules of the project that the log matches. -/
def rules (a : Alert) : List AlarmRule :=
  matchingRules a.project.alarms a.log

/-- The key under which the event is remembered. -/
def key (a : Alert) : String :=
  a.log.eventKey

/-- What is remembered of the event. -/
def note (a : Alert) : Json :=
  .obj [("logId", .str a.logId)]

/-- The alarm in words, if the time of the log can be shown. -/
def payload (a : Alert) (policy : AlarmPolicy) : Except Fault Fields :=
  alarmPayload a.log.toFields a.logId a.project.name policy.baseUrl

/-- An alarm is put into words exactly if the time of its log lies in the calendar. -/
theorem payload_ok_iff (a : Alert) (policy : AlarmPolicy) :
    (∃ payload, a.payload policy = .ok payload) ↔ InCalendar a.log.timestampMs :=
  a.log.exists_payload_iff a.logId a.project.name policy.baseUrl

end Alert

namespace Desk

variable {policy : AlarmPolicy} {a : Alert} {desk : Desk}

/-- A desk whose cache has been asked in vain. -/
def asked (desk : Desk) : Desk :=
  { desk with cache := desk.cache.called }

/-- A desk that remembers an event from now on. -/
def remembering (policy : AlarmPolicy) (a : Alert) (desk : Desk) : Desk :=
  { desk with
    cache := desk.cache.called.store a.now (desk.cache.fullKey a.key) a.note policy.debounceSeconds }

/-- The event of an alert is remembered, and not yet forgotten. -/
def Remembers (desk : Desk) (a : Alert) : Prop :=
  (desk.cache.live? a.now (desk.cache.fullKey a.key)).isSome

/-- A desk with a cache in use asks it to take the key of an alert. -/
theorem seenRecently_occasion (connected : desk.cache.isOpen = true) :
    desk.seenRecently policy a.occasion =
      (.ok !(desk.cache.putNew a.now a.key a.note policy.debounceSeconds).1, { desk with
        cache := (desk.cache.putNew a.now a.key a.note policy.debounceSeconds).2 }) := by
  have key : keyOfLog a.occasion.log = .ok a.key := a.log.keyOfLog_toFields
  unfold seenRecently
  simp only [connected, key]
  rfl

theorem seenRecently_of_remembers (h : desk.cache.Healthy) (seen : desk.Remembers a) :
    desk.seenRecently policy a.occasion = (.ok true, desk.asked) := by
  unfold Remembers at seen
  rw [seenRecently_occasion h.connected, Cache.putNew_healthy h, if_pos seen]
  rfl

theorem seenRecently_of_not_remembers (h : desk.cache.Healthy) (new : ¬desk.Remembers a) :
    desk.seenRecently policy a.occasion = (.ok false, desk.remembering policy a) := by
  unfold Remembers at new
  rw [seenRecently_occasion h.connected, Cache.putNew_healthy h, if_neg new]
  rfl

section Rules

variable {o : Occasion} {p : Progress} {raw : Json} {raws : List Json}

/-- Rules that a log does not match are passed over. -/
theorem considerAll_of_unmatched (unmatched : raws.filterMap (matchingRule? · o.log) = []) :
    desk.considerAll policy o raws p = (p, desk) := by
  induction raws with
  | nil => rfl
  | cons raw rest ih =>
    rw [List.filterMap_cons] at unmatched
    cases first : matchingRule? raw o.log with
    | none =>
      rw [first] at unmatched
      simp only [considerAll, consider, first]
      exact ih unmatched
    | some rule =>
      rw [first] at unmatched
      cases unmatched

/-- Once an event is suppressed it is so for all rules. -/
theorem considerAll_of_suppressed (decided : p.suppressed = some true) :
    desk.considerAll policy o raws p = (p, desk) := by
  induction raws with
  | nil => rfl
  | cons raw rest ih =>
    have same : ({ p with suppressed := some true } : Progress) = p := by rw [← decided]
    cases first : matchingRule? raw o.log <;>
      simpa only [considerAll, consider, first, suppresses, decided, same] using ih

/-- The desk after the alarms of some rules have been sent. -/
def sent (policy : AlarmPolicy) (payload : Fields) (rules : List AlarmRule) (desk : Desk) : Desk :=
  { desk with outbox := Delivery.dispatchAll policy.mail payload rules desk.outbox }

theorem send_of_payload {payload : Fields} {rule : AlarmRule} {delivered : List (String × Bool)}
    (written : alarmPayload o.log o.logId o.project.name policy.baseUrl = .ok payload)
    (complete : (Delivery.dispatch policy.mail rule payload desk.outbox).1 = .ok delivered) :
    desk.send policy o rule = (true, desk.sent policy payload [rule]) := by
  unfold send
  rw [written]
  dsimp only
  split
  · next result => rw [sent, Delivery.dispatchAll, List.foldl_cons, List.foldl_nil, result]
  · next failed =>
    rw [failed] at complete
    cases complete

/-- Once an event is let through, the alarms of all rules that the log matches are sent. -/
theorem considerAll_of_passed (decided : p.suppressed = some false) {payload : Fields}
    (written : alarmPayload o.log o.logId o.project.name policy.baseUrl = .ok payload)
    (complete : ∀ rule box, ∃ delivered,
      (Delivery.dispatch policy.mail rule payload box).1 = .ok delivered) :
    desk.considerAll policy o raws p =
      ({ p with dispatched := p.dispatched + (raws.filterMap (matchingRule? · o.log)).length },
        desk.sent policy payload (raws.filterMap (matchingRule? · o.log))) := by
  induction raws generalizing p desk with
  | nil => rfl
  | cons raw rest ih =>
    rw [List.filterMap_cons]
    cases first : matchingRule? raw o.log with
    | none =>
      simp only [considerAll, consider, first]
      exact ih decided
    | some rule =>
      obtain ⟨delivered, all⟩ := complete rule desk.outbox
      obtain ⟨suppressed, dispatched⟩ := p
      cases decided
      simp only [considerAll, consider, first, suppresses, send_of_payload written all,
        List.length_cons]
      rw [ih rfl, Nat.add_assoc, Nat.add_comm 1]
      rfl

/-- Once an event is let through, and its alarm cannot be put into words, none is sent. -/
theorem considerAll_of_unwritten (decided : p.suppressed = some false) {f : Fault}
    (unwritten : alarmPayload o.log o.logId o.project.name policy.baseUrl = .error f) :
    desk.considerAll policy o raws p = (p, desk) := by
  induction raws with
  | nil => rfl
  | cons raw rest ih =>
    have same : ({ p with suppressed := some false } : Progress) = p := by rw [← decided]
    cases first : matchingRule? raw o.log <;>
      simpa only [considerAll, consider, first, suppresses, decided, send, unwritten, same] using ih

/-- The first rule that a log matches decides for all of them. -/
theorem considerAll_of_matched {desk' : Desk} {seen : Bool}
    (matched : raws.filterMap (matchingRule? · o.log) ≠ [])
    (decided : desk.seenRecently policy o = (.ok seen, desk')) :
    desk.considerAll policy o raws {} =
      desk'.considerAll policy o raws { suppressed := .some seen } := by
  induction raws with
  | nil => exact absurd rfl matched
  | cons raw rest ih =>
    cases first : matchingRule? raw o.log with
    | none =>
      rw [List.filterMap_cons, first] at matched
      simp only [considerAll, consider, first]
      exact ih matched
    | some rule =>
      cases seen <;> simp only [considerAll, consider, first, suppresses, decided]

end Rules

/-- The rules that a log matches are among those of a project that has a list of them. -/
theorem exists_raws (matched : a.rules ≠ []) : ∃ raws, alarmRules a.project.alarms = .ok raws ∧
    a.rules = raws.filterMap (matchingRule? · a.occasion.log) := by
  unfold Alert.rules matchingRules at matched ⊢
  cases listed : alarmRules a.project.alarms with
  | error f =>
    rw [listed] at matched
    exact absurd rfl matched
  | ok raws => exact ⟨raws, rfl, rfl⟩

/-- A log that matches no rule changes nothing. -/
theorem raiseAlarms_of_unmatched (unmatched : a.rules = []) :
    (desk.raiseAlarms policy a.occasion).2 = desk ∧
      ∀ n, (desk.raiseAlarms policy a.occasion).1 = .ok n → n = 0 := by
  unfold raiseAlarms
  unfold Alert.rules matchingRules at unmatched
  rw [show a.occasion.project = a.project from rfl]
  cases listed : alarmRules a.project.alarms with
  | error f => exact ⟨rfl, fun n h => by cases h⟩
  | ok raws =>
    rw [listed] at unmatched
    dsimp only
    rw [considerAll_of_unmatched (o := a.occasion) unmatched]
    exact ⟨rfl, fun n h => by cases h; rfl⟩

/-- A log whose event is remembered raises no alarm; the cache has been asked. -/
theorem raiseAlarms_of_remembers (h : desk.cache.Healthy) (matched : a.rules ≠ [])
    (seen : desk.Remembers a) : desk.raiseAlarms policy a.occasion = (.ok 0, desk.asked) := by
  obtain ⟨raws, listed, rules⟩ := exists_raws matched
  rw [rules] at matched
  unfold raiseAlarms
  rw [show a.occasion.project = a.project from rfl, listed]
  simp only [considerAll_of_matched matched (seenRecently_of_remembers h seen),
    considerAll_of_suppressed]

/-- A log whose event is new raises the alarms of all rules that it matches, if its time can be
shown; the event is remembered. -/
theorem raiseAlarms_of_payload (h : desk.cache.Healthy) (matched : a.rules ≠ [])
    (new : ¬desk.Remembers a) {payload : Fields} (written : a.payload policy = .ok payload) :
    desk.raiseAlarms policy a.occasion =
      (.ok a.rules.length, (desk.remembering policy a).sent policy payload a.rules) := by
  obtain ⟨raws, listed, rules⟩ := exists_raws matched
  rw [rules] at matched ⊢
  unfold raiseAlarms
  rw [show a.occasion.project = a.project from rfl, listed]
  simp only [considerAll_of_matched matched (seenRecently_of_not_remembers h new)]
  rw [considerAll_of_passed (o := a.occasion) rfl written
    (Delivery.dispatch_of_payload written policy.mail), Nat.zero_add]

/-- A log whose event is new is remembered also if its time cannot be shown; then it raises no
alarm. -/
theorem raiseAlarms_of_unwritten (h : desk.cache.Healthy) (matched : a.rules ≠ [])
    (new : ¬desk.Remembers a) {f : Fault} (unwritten : a.payload policy = .error f) :
    desk.raiseAlarms policy a.occasion = (.ok 0, desk.remembering policy a) := by
  obtain ⟨raws, listed, rules⟩ := exists_raws matched
  rw [rules] at matched
  unfold raiseAlarms
  rw [show a.occasion.project = a.project from rfl, listed]
  simp only [considerAll_of_matched matched (seenRecently_of_not_remembers h new)]
  rw [considerAll_of_unwritten (o := a.occasion) rfl unwritten]

/-- A new event is remembered, whether its alarm can be put into words or not. -/
theorem raiseAlarms_cache_of_new (h : desk.cache.Healthy) (matched : a.rules ≠ [])
    (new : ¬desk.Remembers a) :
    (desk.raiseAlarms policy a.occasion).2.cache = (desk.remembering policy a).cache := by
  cases written : a.payload policy with
  | error f => rw [raiseAlarms_of_unwritten h matched new written]
  | ok payload =>
    rw [raiseAlarms_of_payload h matched new written]
    rfl

/-- Alarms are sent exactly for a log that matches a rule, whose event is new and whose time can be
shown. -/
theorem sends_iff (h : desk.cache.Healthy) :
    (∃ n, 0 < n ∧ (desk.raiseAlarms policy a.occasion).1 = .ok n) ↔
      a.rules ≠ [] ∧ ¬desk.Remembers a ∧ InCalendar a.log.timestampMs := by
  rw [← a.payload_ok_iff policy]
  constructor
  · rintro ⟨n, pos, result⟩
    by_cases unmatched : a.rules = []
    · have nothing := (raiseAlarms_of_unmatched unmatched).2 n result
      omega
    · by_cases seen : desk.Remembers a
      · rw [raiseAlarms_of_remembers h unmatched seen] at result
        cases result
        omega
      · refine ⟨unmatched, seen, ?_⟩
        cases written : a.payload policy with
        | error f =>
          rw [raiseAlarms_of_unwritten h unmatched seen written] at result
          cases result
          omega
        | ok payload => exact ⟨payload, rfl⟩
  · rintro ⟨matched, new, payload, written⟩
    exact ⟨a.rules.length, List.length_pos_iff.2 matched, by
      rw [raiseAlarms_of_payload h matched new written]⟩

end Desk

end Logbook

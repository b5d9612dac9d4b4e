import Logbook.Proofs.Alarm.Run
import Logbook.Proofs.Site.Ingestion

/-!
# Debounced alarms

Stored logs are handed over one after the other to have their alarms raised. The rules of a project
do not change meanwhile, and a log of a project that there is reaches the desk as an alert, so what
holds of a desk over many calls holds of the site (`Site.alarms_debounced`).
-/

namespace Logbook

/-- A stored log that is handed over to have its alarms raised, at a time in microseconds. -/
structure AlarmCall where
  now : Int
  log : LogEntry
  logId : String

/-- The time in whole milliseconds, as the cache knows it. -/
def AlarmCall.ms (c : AlarmCall) : Int :=
  c.now.fdiv 1000

/-- Later moments are not earlier when cut to whole milliseconds. -/
theorem fdiv_thousand_le {m n : Int} (h : m ≤ n) : m.fdiv 1000 ≤ n.fdiv 1000 := by
  rw [Int.fdiv_eq_ediv_of_nonneg _ (by decide), Int.fdiv_eq_ediv_of_nonneg _ (by decide)]
  exact Int.ediv_le_ediv (by decide) h

namespace Site

/-- Raises the alarms of a call at its time. -/
def handOver (c : AlarmCall) (s : Site) : Except Fault Nat × Site :=
  raiseAlarms c.log.toFields c.logId { s with now := c.now }

/-- The site after some calls. -/
def afterAlarms (s : Site) (calls : List AlarmCall) : Site :=
  calls.foldl (fun s c => (handOver c s).2) s

/-- The alarm of a rule at least is sent for a call. -/
def Sends (s : Site) (c : AlarmCall) : Prop :=
  ∃ n, 0 < n ∧ (handOver c s).1 = .ok n

/-- The valid rules of its project that a log matches; none if there is no such project. -/
def rulesFor (s : Site) (log : LogEntry) : List AlarmRule :=
  match s.primary.projectOf (.str log.projectId) with
  | .ok project => matchingRules project.alarms log
  | .error _ => []

/-- What a call tells the desk, if the project of its log is there. -/
def alert? (s : Site) (c : AlarmCall) : Option Alert :=
  match s.primary.projectOf (.str c.log.projectId) with
  | .ok project => some ⟨c.log, c.logId, project, c.ms⟩
  | .error _ => none

section Calls

variable {s : Site} {c : AlarmCall} {a : Alert}

/-- An alert is about the log of its call, at the time of the call, and the rules that it matches
are those of its project. -/
theorem alert?_eq_some (given : s.alert? c = some a) :
    s.primary.projectOf (.str c.log.projectId) = .ok a.project ∧ a.log = c.log ∧
      a.logId = c.logId ∧ a.now = c.ms ∧ a.rules = s.rulesFor c.log := by
  unfold alert? at given
  unfold rulesFor
  cases named : s.primary.projectOf (.str c.log.projectId) with
  | error f =>
    rw [named] at given
    cases given
  | ok project =>
    rw [named] at given
    cases given
    exact ⟨rfl, rfl, rfl, rfl, rfl⟩

theorem rulesFor_of_no_alert (given : s.alert? c = none) : s.rulesFor c.log = [] := by
  unfold alert? at given
  unfold rulesFor
  split at given
  · cases given
  · rfl

/-- The alarms for a stored log are raised at the desk, if its project is there. -/
theorem raiseAlarms_toFields (r : LogEntry) (logId : String) (s : Site) :
    raiseAlarms r.toFields logId s = match s.primary.projectOf (.str r.projectId) with
      | .error f => (.error f, s)
      | .ok project =>
        let o := Alert.occasion ⟨r, logId, project, s.clockMs⟩
        ((s.desk.raiseAlarms s.policy o).1,
          { s with desk := (s.desk.raiseAlarms s.policy o).2 }) := by
  have field : r.toFields.lookup "project_id" = some (.str r.projectId) := rfl
  unfold raiseAlarms
  rw [field]
  dsimp only
  cases named : s.primary.projectOf (.str r.projectId) with
  | error f => simp [ask, named, Act.bind_apply]
  | ok project =>
    simp only [ask, named, Act.bind_apply, Act.get_apply, onDesk, Act.onPart_apply]
    rfl

theorem handOver_of_alert (given : s.alert? c = some a) :
    handOver c s = ((s.desk.raiseAlarms s.policy a.occasion).1,
      { s with now := c.now, desk := (s.desk.raiseAlarms s.policy a.occasion).2 }) := by
  unfold alert? at given
  rw [handOver, raiseAlarms_toFields]
  dsimp only
  cases named : s.primary.projectOf (.str c.log.projectId) with
  | error f =>
    rw [named] at given
    cases given
  | ok project =>
    rw [named] at given
    cases given
    rfl

/-- A log without a project reaches no desk. -/
theorem handOver_of_no_alert (given : s.alert? c = none) :
    ∃ f, handOver c s = (.error f, { s with now := c.now }) := by
  unfold alert? at given
  rw [handOver, raiseAlarms_toFields]
  dsimp only
  cases named : s.primary.projectOf (.str c.log.projectId) with
  | error f => exact ⟨f, rfl⟩
  | ok project =>
    rw [named] at given
    cases given

theorem afterAlarms_concat (s : Site) (calls : List AlarmCall) (c : AlarmCall) :
    s.afterAlarms (calls ++ [c]) = (handOver c (s.afterAlarms calls)).2 := by
  simp [afterAlarms]

/-- Calls change nothing but the desk and the time. -/
theorem afterAlarms_frame (s : Site) (calls : List AlarmCall) :
    ∃ now desk, s.afterAlarms calls = { s with now := now, desk := desk } := by
  induction calls using List.reverseRecOn with
  | nil => exact ⟨s.now, s.desk, rfl⟩
  | append_singleton calls c ih =>
    obtain ⟨now, desk, before⟩ := ih
    obtain ⟨desk', frame⟩ := raiseAlarms_frame c.log.toFields c.logId
      { s.afterAlarms calls with now := c.now }
    exact ⟨c.now, desk', by rw [afterAlarms_concat, handOver, frame, before]⟩

theorem alert?_afterAlarms (s : Site) (calls : List AlarmCall) (c : AlarmCall) :
    (s.afterAlarms calls).alert? c = s.alert? c := by
  obtain ⟨now, desk, frame⟩ := s.afterAlarms_frame calls
  rw [frame]
  rfl

theorem policy_afterAlarms (s : Site) (calls : List AlarmCall) :
    (s.afterAlarms calls).policy = s.policy := by
  obtain ⟨now, desk, frame⟩ := s.afterAlarms_frame calls
  rw [frame]
  rfl

end Calls

/-- The desk of a site over some calls. -/
def alarmRun (s : Site) (healthy : s.desk.cache.Healthy) (fresh : s.desk.cache.entries = []) :
    DeskRun AlarmCall where
  policy := s.policy
  desk calls := (s.afterAlarms calls).desk
  alert _ c := s.alert? c
  time := AlarmCall.ms
  healthy := healthy
  fresh := fresh
  timed {calls c a} given := by
    unfold alert? at given
    split at given <;> cases given
    rfl
  step calls c := by
    rw [afterAlarms_concat]
    cases given : s.alert? c with
    | none =>
      obtain ⟨f, same⟩ := handOver_of_no_alert ((s.alert?_afterAlarms calls c).trans given)
      rw [same]
    | some a =>
      rw [handOver_of_alert ((s.alert?_afterAlarms calls c).trans given), s.policy_afterAlarms]

section Debounced

variable {s : Site} {before : List AlarmCall} {c : AlarmCall} {a : Alert}

/-- Alarms for the event of a call were sent before, less than a debounce time ago. -/
def SentLately (s : Site) (before : List AlarmCall) (c : AlarmCall) : Prop :=
  Sometime (fun pre d => (s.afterAlarms pre).Sends d ∧ d.log.eventKey = c.log.eventKey ∧
    c.ms - d.ms < s.settings.alarmDebounceTtlSeconds * 1000) before

/-- What becomes of a call after some others. -/
structure Debounces (s : Site) (before : List AlarmCall) (c : AlarmCall) : Prop where
  /-- Alarms are sent exactly if the log matches a rule and none were sent lately for its event. -/
  sends_iff : (s.afterAlarms before).Sends c ↔ s.rulesFor c.log ≠ [] ∧ ¬s.SentLately before c
  /-- They are then those of all rules that the log matches. -/
  complete : (s.afterAlarms before).Sends c → ∃ project payload,
    s.primary.projectOf (.str c.log.projectId) = .ok project ∧
    alarmPayload c.log.toFields c.logId project.name s.settings.appBaseUrl = .ok payload ∧
    (handOver c (s.afterAlarms before)).1 = .ok (s.rulesFor c.log).length ∧
    (handOver c (s.afterAlarms before)).2.desk.outbox =
      Delivery.dispatchAll s.mail payload (s.rulesFor c.log) (s.afterAlarms before).desk.outbox
  /-- A log for which none are sent leaves the outbox and what the cache remembers as they are. -/
  silent : ¬(s.afterAlarms before).Sends c →
    (handOver c (s.afterAlarms before)).2.desk.outbox = (s.afterAlarms before).desk.outbox ∧
    (handOver c (s.afterAlarms before)).2.desk.cache.entries =
      (s.afterAlarms before).desk.cache.entries
  /-- One that matches no rule does not even ask the cache. -/
  untouched : s.rulesFor c.log = [] →
    (handOver c (s.afterAlarms before)).2.desk.cache = (s.afterAlarms before).desk.cache

theorem alarmRun_sends_iff (healthy : s.desk.cache.Healthy) (fresh : s.desk.cache.entries = [])
    (calls : List AlarmCall) (c : AlarmCall) (r : LogEntry) :
    c.log = r ∧ (s.afterAlarms calls).Sends c ↔
      ∃ a, a.log = r ∧ (s.alarmRun healthy fresh).Sends calls c a := by
  have same := s.alert?_afterAlarms calls c
  unfold Sends DeskRun.Sends
  cases given : s.alert? c with
  | none =>
    obtain ⟨f, failed⟩ := handOver_of_no_alert (same.trans given)
    simp [failed, alarmRun, given]
  | some a =>
    obtain ⟨-, log, -⟩ := alert?_eq_some given
    rw [handOver_of_alert (same.trans given), s.policy_afterAlarms, ← log]
    simp [alarmRun, given]

theorem alarmRun_sentLately_iff (healthy : s.desk.cache.Healthy)
    (fresh : s.desk.cache.entries = []) (given : s.alert? c = some a) :
    s.SentLately before c ↔ (s.alarmRun healthy fresh).SentLately before a := by
  obtain ⟨-, log, -, now, -⟩ := alert?_eq_some given
  rw [DeskRun.sentLately_iff (alarmRun_sends_iff healthy fresh), SentLately, Alert.key, log, now]
  simp only [and_assoc, exists_eq_left']
  exact Iff.rfl

/-- Before a call whose log is of a project that there is, its event is remembered exactly if alarms
for it were sent lately; the cache is healthy. -/
theorem remembers_iff_sentLately (healthy : s.desk.cache.Healthy)
    (fresh : s.desk.cache.entries = [])
    (ordered : before.Pairwise fun c d => c.now ≤ d.now)
    (dated : ∀ d ∈ before, InCalendar d.log.timestampMs) (given : s.alert? c = some a) :
    (s.afterAlarms before).desk.cache.Healthy ∧
      ((s.afterAlarms before).desk.Remembers a ↔ s.SentLately before c) := by
  have timed : before.Pairwise fun c d =>
      (s.alarmRun healthy fresh).time c ≤ (s.alarmRun healthy fresh).time d :=
    ordered.imp fdiv_thousand_le
  refine ⟨((s.alarmRun healthy fresh).tracks before timed).healthy, ?_⟩
  rw [alarmRun_sentLately_iff healthy fresh given]
  refine DeskRun.remembers_iff_sentLately timed fun pre d post b split opens => ?_
  obtain ⟨-, log, -⟩ := alert?_eq_some opens.1
  rw [log]
  exact dated d (by simp [split])

/-- A log of no project that there is matches no rule, and nothing becomes of it. -/
theorem debounces_of_no_alert (given : s.alert? c = none) : s.Debounces before c := by
  obtain ⟨f, failed⟩ := handOver_of_no_alert ((s.alert?_afterAlarms before c).trans given)
  have silent : ¬(s.afterAlarms before).Sends c := by simp [Sends, failed]
  have unmatched := rulesFor_of_no_alert given
  exact ⟨by simp [silent, unmatched], fun sent => absurd sent silent, fun _ => by rw [failed]; simp,
    fun _ => by rw [failed]⟩

/-- At a healthy cache that remembers just the events for which alarms were sent lately, a log whose
time can be shown is debounced. -/
theorem debounces_of_alert (given : s.alert? c = some a)
    (steady : (s.afterAlarms before).desk.cache.Healthy)
    (remembers : (s.afterAlarms before).desk.Remembers a ↔ s.SentLately before c)
    (dated : InCalendar c.log.timestampMs) : s.Debounces before c := by
  obtain ⟨named, log, id, now, rules⟩ := alert?_eq_some given
  have told := handOver_of_alert ((s.alert?_afterAlarms before c).trans given)
  rw [s.policy_afterAlarms] at told
  have shown : InCalendar a.log.timestampMs := log ▸ dated
  have sends : (s.afterAlarms before).Sends c ↔
      s.rulesFor c.log ≠ [] ∧ ¬(s.afterAlarms before).desk.Remembers a := by
    unfold Sends
    rw [told, Desk.sends_iff steady, rules]
    simp [shown]
  refine ⟨by rw [sends, remembers], ?_, ?_, ?_⟩
  · intro sent
    obtain ⟨matched, new⟩ := sends.1 sent
    obtain ⟨payload, written⟩ := (a.payload_ok_iff s.policy).2 shown
    have all := Desk.raiseAlarms_of_payload steady (rules ▸ matched) new written
    refine ⟨a.project, payload, named, by rw [← log, ← id]; exact written, ?_, ?_⟩
    · rw [told, all, rules]
    · rw [told, all, rules]
      rfl
  · intro silent
    by_cases unmatched : a.rules = []
    · rw [told, (Desk.raiseAlarms_of_unmatched unmatched).1]
      exact ⟨rfl, rfl⟩
    · have seen : (s.afterAlarms before).desk.Remembers a := by
        by_contra new
        exact silent (sends.2 ⟨rules ▸ unmatched, new⟩)
      rw [told, Desk.raiseAlarms_of_remembers steady unmatched seen]
      exact ⟨rfl, rfl⟩
  · intro unmatched
    rw [told, (Desk.raiseAlarms_of_unmatched (rules.trans unmatched)).1]

/-- Calls at times that do not go back, about logs whose times lie in the calendar, are debounced if
the cache is healthy and remembers nothing at first. -/
theorem alarms_debounced (healthy : s.desk.cache.Healthy) (fresh : s.desk.cache.entries = [])
    (ordered : (before ++ [c]).Pairwise fun c d => c.now ≤ d.now)
    (dated : ∀ d ∈ before ++ [c], InCalendar d.log.timestampMs) : s.Debounces before c := by
  cases given : s.alert? c with
  | none => exact debounces_of_no_alert given
  | some a =>
    obtain ⟨steady, remembers⟩ := remembers_iff_sentLately healthy fresh
      (List.pairwise_append.1 ordered).1 (fun d mem => dated d (by simp [mem])) given
    exact debounces_of_alert given steady remembers (dated c (by simp))

end Debounced

/-- A shop with two rules, of which the first is not valid. -/
def alarmedShop : Site where
  now := 1711886400000000
  primary := { projects := [⟨"o1", "shop", "Shop", .arr [.str "errors",
    .obj [("level", .str "error"), ("environment", .str "production"),
      ("deliveryMethods", .obj [("webhook", .obj [("url", .str "https://hooks.example/alarm")])])]]⟩] }

/-- An error that is handed over, after some seconds. -/
def errorCall (seconds : Int) (message : String) : AlarmCall where
  now := alarmedShop.now + seconds * 1000000
  log := {
    id := "log-1", projectId := "shop", logType := .application, level := "ERROR"
    environment := "production", hostname := .null, message, stackTrace := []
    rawStackTrace := .null, details := [], detailString := .str "\x7b\x7d", request := .null
    timestampMs := 1711886400000, createdAt := "2024-03-31T12:00:00" }
  logId := "log-1"

/-- The same error twice within the debounce time, another one in between. -/
def errorCalls : List AlarmCall :=
  [errorCall 0 "Gateway timeout", errorCall 60 "Card declined", errorCall 299 "Gateway timeout"]

/-- An alarm is sent for the first two of the errors, none for the third, and one again for the
fourth, at the end of the debounce time. -/
theorem alarms_debounced_repeatedError :
    ((errorCalls ++ [errorCall 300 "Gateway timeout"]).inits.map fun calls =>
        (alarmedShop.afterAlarms calls).desk.outbox.sent.length) = [0, 1, 2, 2, 3] ∧
      alarmedShop.Debounces errorCalls (errorCall 300 "Gateway timeout") := by
  refine ⟨by decide +kernel, ?_⟩
  exact alarms_debounced ⟨rfl, fun _ _ => rfl⟩ rfl (by decide) (by decide)

end Site

end Logbook

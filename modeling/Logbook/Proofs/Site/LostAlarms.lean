import Logbook.Proofs.Site.Alarms
import Logbook.Proofs.Store.Primary

/-!
# Lost alarms

Payloads arrive one after the other; what is accepted is stored, and its alarms are raised. The
event of a log is remembered before its alarm is put into words. So a log whose time cannot be shown
raises no alarm, and yet none is raised for its event until that is forgotten. Nothing else loses
an alarm (`Site.no_alarm_lost_iff`).
-/

namespace Logbook

/-- A payload that arrives, at a time in microseconds. -/
structure Arrival where
  now : Int
  payload : Json

/-- The call that hands over the log of an arrival. -/
def Arrival.call (i : Arrival) (r : LogEntry) : AlarmCall where
  now := i.now
  log := r
  logId := r.id

/-- The time in whole milliseconds, as the cache knows it. -/
def Arrival.ms (i : Arrival) : Int :=
  i.now.fdiv 1000

theorem Primary.projectOf_congr {db db' : Primary} (same : db'.projects = db.projects)
    (slug : Json) : db'.projectOf slug = db.projectOf slug := by
  unfold projectOf project
  rw [same]

/-- A new log leaves the projects as they are. -/
theorem Primary.projects_of_insert {db db' : Primary} {r : LogEntry}
    (stored : db.insert r = .ok db') : db'.projects = db.projects := by
  obtain ⟨row, -, -, -, rfl⟩ := insert_eq_ok stored
  rfl

namespace Site

/-- Ingests a payload at the time of its arrival. -/
def take (i : Arrival) (s : Site) : Except Fault LogEntry × Site :=
  ingest i.payload { s with now := i.now }

/-- The site after some arrivals. -/
def afterArrivals (s : Site) (arrivals : List Arrival) : Site :=
  arrivals.foldl (fun s i => (take i s).2) s

/-- An arrival is accepted as a log. -/
def Takes (s : Site) (i : Arrival) (r : LogEntry) : Prop :=
  (take i s).1 = .ok r

theorem takes_iff {s : Site} {i : Arrival} {r : LogEntry} :
    s.Takes i r ↔ (take i s).1.toOption = some r := by
  unfold Takes
  cases (take i s).1 <;> simp [Except.toOption]

instance (s : Site) (i : Arrival) (r : LogEntry) : Decidable (s.Takes i r) :=
  decidable_of_iff _ takes_iff.symm

/-- An arrival is accepted as a log, and the alarm of a rule at least is sent for it. -/
def SendsFor (s : Site) (i : Arrival) (r : LogEntry) : Prop :=
  ∃ db, ({ s with now := i.now } : Site).Accepts i.payload r db ∧
    (({ s with now := i.now } : Site).withRecord r db).Sends (i.call r)

/-- The event of a log is remembered when the log arrives. -/
def Suppresses (s : Site) (i : Arrival) (r : LogEntry) : Prop :=
  (s.desk.cache.live? i.ms (s.desk.cache.fullKey r.eventKey)).isSome

instance (s : Site) (i : Arrival) (r : LogEntry) : Decidable (s.Suppresses i r) :=
  inferInstanceAs (Decidable (_ = true))

/-- Two sites with the same settings, mail account and projects. -/
structure Alike (s t : Site) : Prop where
  settings : t.settings = s.settings
  mail : t.mail = s.mail
  projects : t.primary.projects = s.primary.projects

namespace Alike

variable {s t u : Site}

theorem refl (s : Site) : s.Alike s :=
  ⟨rfl, rfl, rfl⟩

theorem trans (h : s.Alike t) (h' : t.Alike u) : s.Alike u :=
  ⟨h'.settings.trans h.settings, h'.mail.trans h.mail, h'.projects.trans h.projects⟩

theorem policy (h : s.Alike t) : t.policy = s.policy := by
  rw [Site.policy, h.settings, h.mail]
  rfl

theorem alert? (h : s.Alike t) (c : AlarmCall) : t.alert? c = s.alert? c := by
  rw [Site.alert?, Primary.projectOf_congr h.projects]
  rfl

end Alike

section Arrivals

variable {s : Site} {i : Arrival} {r : LogEntry} {db : Primary}

/-- Storing an accepted log changes nothing that alarms look at. -/
theorem Accepts.alike (h : ({ s with now := i.now } : Site).Accepts i.payload r db) :
    s.Alike (({ s with now := i.now } : Site).withRecord r db) :=
  ⟨rfl, rfl, Primary.projects_of_insert h.stored⟩

theorem take_of_accepts (h : ({ s with now := i.now } : Site).Accepts i.payload r db) :
    take i s =
      (.ok r, (handOver (i.call r) (({ s with now := i.now } : Site).withRecord r db)).2) :=
  ingest_of_accepts h

/-- What an arrival tells the desk, if it is accepted and the project of its log is there. -/
def alertOf? (s : Site) (i : Arrival) : Option Alert :=
  match (take i s).1 with
  | .ok r => s.alert? (i.call r)
  | .error _ => none

theorem alertOf?_eq_some {a : Alert} :
    s.alertOf? i = some a ↔ ∃ r, s.Takes i r ∧ s.alert? (i.call r) = some a := by
  unfold alertOf? Takes
  cases (take i s).1 <;> simp

/-- An arrival changes nothing that alarms look at but the desk, and that as its alert says. -/
theorem take_alike (s : Site) (i : Arrival) : s.Alike (take i s).2 ∧
    (take i s).2.desk = match s.alertOf? i with
      | none => s.desk
      | some a => (s.desk.raiseAlarms s.policy a.occasion).2 := by
  rcases ingest_cases i.payload { s with now := i.now } with
    ⟨f, drawn, -, rejected⟩ | ⟨r, db, accepts, -⟩
  · have ran : take i s = (.error f, { s with now := i.now, drawn := drawn }) := rejected
    rw [alertOf?, ran]
    exact ⟨⟨rfl, rfl, rfl⟩, rfl⟩
  · have ran := take_of_accepts accepts
    have alike := accepts.alike
    obtain ⟨desk, frame⟩ := raiseAlarms_frame r.toFields r.id
      (({ s with now := i.now } : Site).withRecord r db)
    rw [alertOf?, ran]
    refine ⟨?_, ?_⟩
    · exact frame ▸ ⟨alike.settings, alike.mail, alike.projects⟩
    · dsimp only
      cases given : s.alert? (i.call r) with
      | none =>
        obtain ⟨f, same⟩ := handOver_of_no_alert ((alike.alert? _).trans given)
        rw [same]
        rfl
      | some a =>
        rw [handOver_of_alert ((alike.alert? _).trans given), alike.policy]
        rfl

/-- Alarms are sent for an arrival exactly if the desk sends them for its alert. -/
theorem sendsFor_iff : s.SendsFor i r ↔ s.Takes i r ∧ ∃ a, s.alert? (i.call r) = some a ∧
    ∃ n, 0 < n ∧ (s.desk.raiseAlarms s.policy a.occasion).1 = .ok n := by
  have told : ∀ {db}, ({ s with now := i.now } : Site).Accepts i.payload r db →
      ((({ s with now := i.now } : Site).withRecord r db).Sends (i.call r) ↔
        ∃ a, s.alert? (i.call r) = some a ∧
          ∃ n, 0 < n ∧ (s.desk.raiseAlarms s.policy a.occasion).1 = .ok n) := by
    intro db accepts
    have alike := accepts.alike
    unfold Sends
    cases given : s.alert? (i.call r) with
    | none =>
      obtain ⟨f, failed⟩ := handOver_of_no_alert ((alike.alert? _).trans given)
      simp [failed]
    | some a =>
      rw [handOver_of_alert ((alike.alert? _).trans given), alike.policy]
      simp [withRecord]
  constructor
  · rintro ⟨db, accepts, sends⟩
    exact ⟨by rw [Takes, take_of_accepts accepts], (told accepts).1 sends⟩
  · rintro ⟨taken, sends⟩
    rcases ingest_cases i.payload { s with now := i.now } with
      ⟨f, drawn, -, rejected⟩ | ⟨r', db, accepts, -⟩
    · rw [Takes, take, rejected] at taken
      cases taken
    · rw [Takes, take_of_accepts accepts] at taken
      cases taken
      exact ⟨db, accepts, (told accepts).2 sends⟩

theorem afterArrivals_concat (s : Site) (arrivals : List Arrival) (i : Arrival) :
    s.afterArrivals (arrivals ++ [i]) = (take i (s.afterArrivals arrivals)).2 := by
  simp [afterArrivals]

theorem afterArrivals_alike (s : Site) (arrivals : List Arrival) :
    s.Alike (s.afterArrivals arrivals) := by
  induction arrivals using List.reverseRecOn with
  | nil => exact .refl s
  | append_singleton arrivals i ih =>
    rw [afterArrivals_concat]
    exact ih.trans (take_alike _ i).1

theorem sendsFor_afterArrivals_iff {arrivals : List Arrival} :
    (s.afterArrivals arrivals).SendsFor i r ↔ (s.afterArrivals arrivals).Takes i r ∧
      ∃ a, s.alert? (i.call r) = some a ∧
        ∃ n, 0 < n ∧ ((s.afterArrivals arrivals).desk.raiseAlarms s.policy a.occasion).1 = .ok n := by
  have alike := s.afterArrivals_alike arrivals
  rw [sendsFor_iff, alike.alert?, alike.policy]

end Arrivals

/-- The desk of a site over some arrivals. -/
def arrivalRun (s : Site) (healthy : s.desk.cache.Healthy) (fresh : s.desk.cache.entries = []) :
    DeskRun Arrival where
  policy := s.policy
  desk arrivals := (s.afterArrivals arrivals).desk
  alert arrivals i := (s.afterArrivals arrivals).alertOf? i
  time := Arrival.ms
  healthy := healthy
  fresh := fresh
  timed given := by
    obtain ⟨r, -, alert⟩ := alertOf?_eq_some.1 given
    exact (alert?_eq_some alert).2.2.2.1
  step arrivals i := by
    have desk := (take_alike (s.afterArrivals arrivals) i).2
    rw [(s.afterArrivals_alike arrivals).policy] at desk
    rw [afterArrivals_concat]
    exact desk

section Lost

variable {s : Site} {arrivals : List Arrival} {i : Arrival} {r : LogEntry} {a : Alert}

/-- Alarms for the event of a log were sent before, less than a debounce time ago. -/
def SentBefore (s : Site) (arrivals : List Arrival) (i : Arrival) (r : LogEntry) : Prop :=
  Sometime (fun pre j => ∃ q, (s.afterArrivals pre).SendsFor j q ∧ q.eventKey = r.eventKey ∧
    i.ms - j.ms < s.settings.alarmDebounceTtlSeconds * 1000) arrivals

/-- For every accepted log that matches a rule alarms are sent, unless some were sent before. -/
def NoAlarmLost (s : Site) (arrivals : List Arrival) : Prop :=
  ∀ pre i post r, arrivals = pre ++ i :: post → (s.afterArrivals pre).Takes i r →
    s.rulesFor r ≠ [] → ¬(s.afterArrivals pre).SendsFor i r → s.SentBefore pre i r

/-- The alert of an arrival is about the log as which it is accepted. -/
theorem arrivalRun_alert_iff (healthy : s.desk.cache.Healthy)
    (fresh : s.desk.cache.entries = []) :
    (s.arrivalRun healthy fresh).alert arrivals i = some a ↔
      (s.afterArrivals arrivals).Takes i a.log ∧ s.alert? (i.call a.log) = some a := by
  have given : (s.arrivalRun healthy fresh).alert arrivals i = some a ↔ _ := alertOf?_eq_some
  rw [given]
  constructor
  · rintro ⟨r, taken, alert⟩
    rw [(s.afterArrivals_alike arrivals).alert?] at alert
    have log : a.log = r := (alert?_eq_some alert).2.1
    rw [log]
    exact ⟨taken, alert⟩
  · rintro ⟨taken, alert⟩
    exact ⟨a.log, taken, by rw [(s.afterArrivals_alike arrivals).alert?]; exact alert⟩

theorem arrivalRun_sends_iff (healthy : s.desk.cache.Healthy)
    (fresh : s.desk.cache.entries = []) (arrivals : List Arrival) (i : Arrival) (r : LogEntry) :
    (s.afterArrivals arrivals).SendsFor i r ↔
      ∃ a, a.log = r ∧ (s.arrivalRun healthy fresh).Sends arrivals i a := by
  rw [sendsFor_afterArrivals_iff]
  unfold DeskRun.Sends
  simp only [arrivalRun_alert_iff]
  constructor
  · rintro ⟨taken, a, alert, sent⟩
    obtain ⟨-, rfl, -⟩ := alert?_eq_some alert
    exact ⟨a, rfl, ⟨taken, alert⟩, sent⟩
  · rintro ⟨a, rfl, ⟨taken, alert⟩, sent⟩
    exact ⟨taken, a, alert, sent⟩

theorem arrivalRun_sentLately_iff (healthy : s.desk.cache.Healthy)
    (fresh : s.desk.cache.entries = []) (alert : s.alert? (i.call r) = some a) :
    s.SentBefore arrivals i r ↔ (s.arrivalRun healthy fresh).SentLately arrivals a := by
  obtain ⟨-, log, -, now, -⟩ := alert?_eq_some alert
  rw [DeskRun.sentLately_iff (arrivalRun_sends_iff healthy fresh), Alert.key, log, now]
  exact Iff.rfl

theorem arrivalRun_opens_iff (healthy : s.desk.cache.Healthy)
    (fresh : s.desk.cache.entries = []) (alert : s.alert? (i.call r) = some a) :
    (s.arrivalRun healthy fresh).Opens arrivals i a ↔ (s.afterArrivals arrivals).Takes i r ∧
      s.rulesFor r ≠ [] ∧ ¬(s.afterArrivals arrivals).Suppresses i r := by
  obtain ⟨-, log, -, now, rules⟩ := alert?_eq_some alert
  unfold DeskRun.Opens
  rw [arrivalRun_alert_iff, rules, Desk.Remembers, Alert.key, log, now]
  constructor
  · rintro ⟨⟨taken, -⟩, matched, new⟩
    exact ⟨taken, matched, new⟩
  · rintro ⟨taken, matched, new⟩
    exact ⟨⟨taken, alert⟩, matched, new⟩

/-- A log that matches a rule is of a project that there is. -/
theorem exists_alert (i : Arrival) (matched : s.rulesFor r ≠ []) :
    ∃ a, s.alert? (i.call r) = some a := by
  cases alert : s.alert? (i.call r) with
  | none => exact absurd (rulesFor_of_no_alert alert) matched
  | some a => exact ⟨a, rfl⟩

/-- Alarms are sent for an arrival exactly if it is accepted as a log that matches a rule, whose
event is not remembered and whose time lies in the calendar. -/
theorem sendsFor_iff_of_ordered (healthy : s.desk.cache.Healthy)
    (fresh : s.desk.cache.entries = []) (ordered : arrivals.Pairwise fun i j => i.now ≤ j.now) :
    (s.afterArrivals arrivals).SendsFor i r ↔ (s.afterArrivals arrivals).Takes i r ∧
      s.rulesFor r ≠ [] ∧ ¬(s.afterArrivals arrivals).Suppresses i r ∧
      InCalendar r.timestampMs := by
  have timed : arrivals.Pairwise fun i j =>
      (s.arrivalRun healthy fresh).time i ≤ (s.arrivalRun healthy fresh).time j :=
    ordered.imp fdiv_thousand_le
  rw [arrivalRun_sends_iff healthy fresh]
  simp only [DeskRun.sends_iff timed]
  constructor
  · rintro ⟨a, rfl, opens, dated⟩
    obtain ⟨-, alert⟩ := (arrivalRun_alert_iff healthy fresh).1 opens.1
    obtain ⟨taken, matched, new⟩ := (arrivalRun_opens_iff healthy fresh alert).1 opens
    exact ⟨taken, matched, new, dated⟩
  · rintro ⟨taken, matched, new, dated⟩
    obtain ⟨a, alert⟩ := exists_alert i matched
    have opens := (arrivalRun_opens_iff healthy fresh alert).2 ⟨taken, matched, new⟩
    obtain ⟨-, rfl, -⟩ := alert?_eq_some alert
    exact ⟨a, rfl, opens, dated⟩

/-- No alarm is lost exactly if none is at the desk. -/
theorem noAlarmLost_iff_run (healthy : s.desk.cache.Healthy) (fresh : s.desk.cache.entries = []) :
    s.NoAlarmLost arrivals ↔ ∀ pre i post a, arrivals = pre ++ i :: post →
      (s.arrivalRun healthy fresh).alert pre i = some a → a.rules ≠ [] →
      ¬(s.arrivalRun healthy fresh).Sends pre i a → (s.arrivalRun healthy fresh).SentLately pre a := by
  constructor
  · intro kept pre i post a split given matched silent
    obtain ⟨taken, alert⟩ := (arrivalRun_alert_iff healthy fresh).1 given
    have rules : a.rules = s.rulesFor a.log := (alert?_eq_some alert).2.2.2.2
    rw [← arrivalRun_sentLately_iff healthy fresh alert]
    refine kept pre i post a.log split taken (rules ▸ matched) fun sends => ?_
    obtain ⟨b, -, sent⟩ := (arrivalRun_sends_iff healthy fresh pre i a.log).1 sends
    have same : b = a := Option.some.inj (sent.1.symm.trans given)
    exact silent (same ▸ sent)
  · intro kept pre i post r split taken matched silent
    obtain ⟨a, alert⟩ := exists_alert i matched
    obtain ⟨-, rfl, -, -, rules⟩ := alert?_eq_some alert
    rw [arrivalRun_sentLately_iff healthy fresh alert]
    have given := (arrivalRun_alert_iff healthy fresh).2 ⟨taken, alert⟩
    refine kept pre i post a split given (rules.symm ▸ matched) fun sent => ?_
    exact silent ((arrivalRun_sends_iff healthy fresh pre i a.log).2 ⟨a, rfl, sent⟩)

/-- Over any arrivals at times that do not go back, no alarm is lost exactly if the time of every
accepted log lies in the calendar that matches a rule and whose event is not remembered when it
arrives. -/
theorem no_alarm_lost_iff (healthy : s.desk.cache.Healthy) (fresh : s.desk.cache.entries = [])
    (ordered : arrivals.Pairwise fun i j => i.now ≤ j.now) :
    s.NoAlarmLost arrivals ↔ ∀ pre i post r, arrivals = pre ++ i :: post →
      (s.afterArrivals pre).Takes i r → s.rulesFor r ≠ [] →
      ¬(s.afterArrivals pre).Suppresses i r → InCalendar r.timestampMs := by
  have timed : arrivals.Pairwise fun i j =>
      (s.arrivalRun healthy fresh).time i ≤ (s.arrivalRun healthy fresh).time j :=
    ordered.imp fdiv_thousand_le
  rw [noAlarmLost_iff_run healthy fresh, DeskRun.none_lost_iff timed]
  constructor
  · intro dated pre i post r split taken matched new
    obtain ⟨a, alert⟩ := exists_alert i matched
    have opens := (arrivalRun_opens_iff healthy fresh alert).2 ⟨taken, matched, new⟩
    obtain ⟨-, rfl, -⟩ := alert?_eq_some alert
    exact dated pre i post a split opens
  · intro dated pre i post a split opens
    obtain ⟨-, alert⟩ := (arrivalRun_alert_iff healthy fresh).1 opens.1
    obtain ⟨taken, matched, new⟩ := (arrivalRun_opens_iff healthy fresh alert).1 opens
    exact dated pre i post a.log split taken matched new

end Lost

/-- An error in the shop that arrives after some seconds, with its time in milliseconds. -/
def errorArrival (seconds timestampMs : Int) : Arrival where
  now := alarmedShop.now + seconds * 1000000
  payload := .obj [("level", .str "ERROR"), ("environment", .str "production"),
    ("projectId", .str "shop"), ("message", .str "Gateway timeout"),
    ("timestampMS", .int timestampMs)]

/-- The log as which such an error is accepted. -/
def errorLog (id : String) (timestampMs : Int) (createdAt : String) : LogEntry where
  id := id
  projectId := "shop"
  projectObjectId := "o1"
  logType := .application
  level := "ERROR"
  environment := "production"
  hostname := .null
  message := "Gateway timeout"
  stackTrace := []
  rawStackTrace := .null
  details := []
  detailString := .str "\x7b\x7d"
  request := .null
  timestampMs := timestampMs
  createdAt := createdAt

theorem no_alarm_lost_repeatedError :
    alarmedShop.NoAlarmLost [errorArrival 0 1711886400000, errorArrival 60 1711886460000] := by
  refine (no_alarm_lost_iff ⟨rfl, fun _ _ => rfl⟩ rfl (by decide)).2 ?_
  rintro (_ | ⟨x, _ | ⟨y, rest⟩⟩) i post r split taken - -
  · obtain ⟨rfl, -⟩ := List.cons.inj split
    have first : alarmedShop.Takes (errorArrival 0 1711886400000)
        (errorLog "log-1" 1711886400000 "2024-03-31T12:00:00") := by decide +kernel
    cases first.symm.trans taken
    decide
  · obtain ⟨rfl, rest⟩ := List.cons.inj split
    obtain ⟨rfl, -⟩ := List.cons.inj rest
    have second : (alarmedShop.afterArrivals [errorArrival 0 1711886400000]).Takes
        (errorArrival 60 1711886460000)
        (errorLog "log-2" 1711886460000 "2024-03-31T12:01:00") := by decide +kernel
    cases second.symm.trans taken
    decide
  · simp at split

/-- An error of the year 10000 is stored and raises no alarm, and no alarm is raised for the same
error a minute later. -/
theorem alarm_lost_yearTenThousand :
    ¬alarmedShop.NoAlarmLost [errorArrival 0 253402300800000, errorArrival 60 1711886460000] := by
  have healthy : alarmedShop.desk.cache.Healthy := ⟨rfl, fun _ _ => rfl⟩
  have first : alarmedShop.Takes (errorArrival 0 253402300800000)
      (errorLog "log-1" 253402300800000 "2024-03-31T12:00:00") := by decide +kernel
  have second : (alarmedShop.afterArrivals [errorArrival 0 253402300800000]).Takes
      (errorArrival 60 1711886460000)
      (errorLog "log-2" 1711886460000 "2024-03-31T12:01:00") := by decide +kernel
  have suppressed : (alarmedShop.afterArrivals [errorArrival 0 253402300800000]).Suppresses
      (errorArrival 60 1711886460000)
      (errorLog "log-2" 1711886460000 "2024-03-31T12:01:00") := by decide +kernel
  intro kept
  obtain ⟨pre, j, post, split, q, sends, -⟩ := kept [errorArrival 0 253402300800000]
    (errorArrival 60 1711886460000) [] _ rfl second (by decide +kernel) fun sends =>
      ((sendsFor_iff_of_ordered healthy rfl (by decide)).1 sends).2.2.1 suppressed
  obtain ⟨rfl, rfl, rfl⟩ : pre = [] ∧ j = errorArrival 0 253402300800000 ∧ post = [] := by
    cases pre <;> simp_all
  obtain ⟨taken, -, -, dated⟩ := (sendsFor_iff_of_ordered healthy rfl .nil).1 sends
  cases first.symm.trans taken
  exact absurd dated (by decide)

end Site

end Logbook

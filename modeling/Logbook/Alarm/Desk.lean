import Logbook.Alarm.Debounce
import Logbook.Delivery.Channels
import Logbook.Store.Cache
import Logbook.Store.Primary

/-!
# Raising alarms

A log is held against the rules of its project one after the other. The first rule that it matches
decides whether its event is debounced: whether an alarm with its key was raised not long ago. That
decision holds for all rules. A rule that is malformed or fails does not keep the others from
being looked at.
-/

namespace Logbook

/-- What alarms need besides the logs. -/
structure AlarmPolicy where
  debounceSeconds : Int := 300
  baseUrl : String := ""
  mail : MailAccount := {}
  deriving DecidableEq, Repr

/-- The cache that remembers events, and the requests sent. -/
structure Desk where
  cache : Cache := { link := .absent }
  outbox : Outbox := {}

/-- A log about which alarms may be raised. -/
structure Occasion where
  log : Fields
  logId : String
  project : Project
  /-- The moment, in milliseconds. -/
  now : Int

/-- How far the rules have been looked at: whether the event is suppressed, once that is decided,
and how many rules have sent their alarm. -/
structure Progress where
  suppressed : Option Bool := none
  dispatched : Nat := 0
  deriving DecidableEq, Repr

/-- The rules of a project as they are gone through: a list item by item, an object key by key and
a text character by character. -/
def alarmRules (alarms : Json) : Except Fault (List Json) :=
  if !alarms.truthy then .ok []
  else match alarms with
    | .arr rules => .ok rules
    | .obj fs => .ok (fs.map fun (k, _) => .str k)
    | .str s => .ok (s.toList.map fun c => .str (String.singleton c))
    | _ => .error .wrongType

namespace Desk

/-- Is the event of a log debounced? If not, it is remembered from now on. Without a cache no event
is. -/
def seenRecently (policy : AlarmPolicy) (o : Occasion) (desk : Desk) : Except Fault Bool × Desk :=
  if !desk.cache.isOpen then (.ok false, desk)
  else match keyOfLog o.log with
    | .error f => (.error f, desk)
    | .ok key =>
      let (acquired, cache) := desk.cache.putNew o.now key (.obj [("logId", .str o.logId)])
        policy.debounceSeconds
      (.ok !acquired, { desk with cache := cache })

/-- The decision whether the event is suppressed, made now unless it was made before. -/
def suppresses (policy : AlarmPolicy) (o : Occasion) (p : Progress) (desk : Desk) :
    Except Fault Bool × Desk :=
  match p.suppressed with
  | some b => (.ok b, desk)
  | none => desk.seenRecently policy o

/-- Sends the alarm of a rule; does the sending come to its end? -/
def send (policy : AlarmPolicy) (o : Occasion) (rule : AlarmRule) (desk : Desk) : Bool × Desk :=
  match alarmPayload o.log o.logId o.project.name policy.baseUrl with
  | .error _ => (false, desk)
  | .ok payload => match Delivery.dispatch policy.mail rule payload desk.outbox with
    | (.ok _, outbox) => (true, { desk with outbox := outbox })
    | (.error _, outbox) => (false, { desk with outbox := outbox })

/-- Does the log of an occasion match a rule as it was given? A malformed rule matches nothing. -/
def matchingRule? (raw : Json) (log : Fields) : Option AlarmRule :=
  match AlarmRule.check raw with
  | .good rule => match rule.accepts log with
    | .ok true => some rule
    | _ => none
  | .bad _ => none

/-- Looks at one rule. -/
def consider (policy : AlarmPolicy) (o : Occasion) (raw : Json) (p : Progress) (desk : Desk) :
    Progress × Desk :=
  match matchingRule? raw o.log with
  | none => (p, desk)
  | some rule => match desk.suppresses policy o p with
    | (.error _, desk) => (p, desk)
    | (.ok true, desk) => ({ p with suppressed := some true }, desk)
    | (.ok false, desk) =>
      let p := { p with suppressed := some false }
      match desk.send policy o rule with
      | (true, desk) => ({ p with dispatched := p.dispatched + 1 }, desk)
      | (false, desk) => (p, desk)

/-- Looks at rules one after the other. -/
def considerAll (policy : AlarmPolicy) (o : Occasion) :
    List Json → Progress → Desk → Progress × Desk
  | [], p, desk => (p, desk)
  | raw :: r, p, desk =>
    let (p, desk) := desk.consider policy o raw p
    considerAll policy o r p desk

/-- Raises the alarms for a log; how many rules sent theirs? -/
def raiseAlarms (policy : AlarmPolicy) (o : Occasion) (desk : Desk) : Except Fault Nat × Desk :=
  match alarmRules o.project.alarms with
  | .error f => (.error f, desk)
  | .ok rules =>
    let (p, desk) := desk.considerAll policy o rules {}
    (.ok p.dispatched, desk)

end Desk

end Logbook

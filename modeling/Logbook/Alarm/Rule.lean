import Logbook.Phrase.Surface
import Logbook.Query.Params

/-!
# Alarm rules

A rule names the logs that raise an alarm, by log type, levels, environment and a part of the
message, and the ways in which the alarm is delivered. But for the log type the case of letters
does not count.
-/

namespace Logbook

/-- The ways in which an alarm is delivered. -/
structure DeliveryPlan where
  /-- The addresses that get an e-mail. -/
  email : Option (List String) := none
  /-- The address of a chat channel. -/
  chat : Option String := none
  /-- The address that gets the alarm as data. -/
  webhook : Option String := none
  deriving DecidableEq, Repr

/-- A rule. Without a message it matches every message. -/
structure AlarmRule where
  logType : String := "application"
  level : Wanted
  environment : String
  message : Option String := none
  delivery : DeliveryPlan := {}
  deriving DecidableEq, Repr

namespace DeliveryPlan

/-- The ways of delivery in a rule. -/
def check : Check DeliveryPlan :=
  Check.object fun fs => DeliveryPlan.mk <$>
    Check.optionalField "email"
      (Check.object (Check.defaulted "addresses" [] (Check.list Check.text))) fs <*>
    Check.optionalField "slack" (Check.object (Check.required "webhook" Check.text)) fs <*>
    Check.optionalField "webhook" (Check.object (Check.required "url" Check.text)) fs

/-- The ways of delivery as they are answered. -/
def toJson (d : DeliveryPlan) : Json :=
  .obj [("email", .orNull (fun as => .obj [("addresses", Json.strings as)]) d.email),
    ("slack", .orNull (fun u => .obj [("webhook", .str u)]) d.chat),
    ("webhook", .orNull (fun u => .obj [("url", .str u)]) d.webhook)]

end DeliveryPlan

namespace Wanted

/-- The wanted values as a list. -/
def toList : Wanted → List String
  | one s => [s]
  | many ss => ss

end Wanted

namespace AlarmRule

/-- A rule of a project. -/
def check : Check AlarmRule :=
  Check.object fun fs =>
    AlarmRule.mk <$> Check.defaulted "logType" "application" Check.text fs <*>
      Check.required "level" Wanted.check fs <*>
      Check.required "environment" Check.text fs <*>
      Check.optionalField "message" Check.text fs <*>
      Check.defaulted "deliveryMethods" {} DeliveryPlan.check fs

/-- The rule as it is answered. -/
def toJson (r : AlarmRule) : Json :=
  .obj [("logType", .str r.logType), ("level", r.level.toJson),
    ("environment", .str r.environment), ("message", .orNull .str r.message),
    ("deliveryMethods", r.delivery.toJson)]

/-- Does the rule want this level? -/
def wantsLevel (r : AlarmRule) (level : String) : Bool :=
  (r.level.toList.map lowered).contains (lowered level)

/-- Does the rule want this environment? -/
def wantsEnvironment (r : AlarmRule) (environment : String) : Bool :=
  lowered r.environment == lowered environment

/-- Does a log match the rule? The parts are looked at one after the other, until one does not
match. -/
def accepts (r : AlarmRule) (log : Fields) : Except Fault Bool := do
  if log.get "log_type" ≠ .str r.logType then return false
  if !r.wantsLevel (← (log.get "level").asText) then return false
  if !r.wantsEnvironment (← (log.get "environment").asText) then return false
  match r.message with
  | none => return true
  | some part => return (Condition.mk part .anywhere).holds (← (log.get "message").asText)

end AlarmRule

end Logbook

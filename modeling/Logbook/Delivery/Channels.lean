import Logbook.Alarm.Payload
import Logbook.Alarm.Render
import Logbook.Alarm.Rule
import Logbook.Delivery.Outbox

/-!
# Delivery channels

An alarm goes out as an e-mail, as a chat message and as data. An e-mail needs an account and
somebody to write to; without them nothing is sent. The channels of a rule succeed or fail each
for itself.
-/

namespace Logbook

/-- The account at the mail service. -/
structure MailAccount where
  apiKey : String := ""
  domain : String := ""
  sender : String := ""
  base : String := "https://api.mailgun.net/v3"
  deriving DecidableEq, Repr

namespace MailAccount

/-- The address that takes the messages of an account. -/
def messagesUrl (m : MailAccount) : String :=
  withoutSlashes m.base ++ "/" ++ m.domain ++ "/messages"

/-- The credentials of the account. -/
def authorization (m : MailAccount) : String :=
  basicAuthorization "api" m.apiKey

/-- Can a message to these addresses be sent? -/
def canSend (m : MailAccount) (addresses : List String) : Bool :=
  m.apiKey != "" && m.domain != "" && !addresses.isEmpty

/-- The form that sends a message. -/
def message (m : MailAccount) (addresses : List String) (subject html : String) : Content :=
  .form ([("from", m.sender)] ++ addresses.map (("to", ·)) ++
    [("subject", subject), ("html", html)])

end MailAccount

namespace Delivery

/-- Sends an e-mail; false if there is no account or no address. -/
def email (m : MailAccount) (addresses : List String) (subject html : String) :
    Act Outbox Bool := do
  if m.canSend addresses then
    Outbox.post "email" m.messagesUrl m.authorization (m.message addresses subject html)
    return true
  else return false

/-- Sends a chat message, a text as a rule. -/
def chat (url : String) (text : Json) : Act Outbox Bool := do
  Outbox.post "slack" url none (.json (.obj [("text", text)]))
  return true

/-- Sends data. -/
def webhook (url : String) (data : Json) : Act Outbox Bool := do
  Outbox.post "webhook" url none (.json data)
  return true

/-- A delivery whose failure counts as not delivered. -/
def deliver (send : Act Outbox Bool) : StateM Outbox Bool :=
  fun box => match send box with
    | (.ok b, box') => (b, box')
    | (.error _, box') => (false, box')

/-- The deliveries that a rule asks for, by channel. -/
def sends (m : MailAccount) (d : DeliveryPlan) (payload : Fields) :
    Except Fault (List (String × Act Outbox Bool)) := do
  let email ← d.email.toList.mapM fun addresses => do
    let subject ← Render.subject payload
    let html ← Render.html payload
    return ("email", email m addresses subject html)
  let chat ← d.chat.toList.mapM fun url => do
    return ("slack", chat url (.str (← Render.text payload)))
  let webhook := d.webhook.toList.map fun url => ("webhook", webhook url (.obj payload))
  return email ++ chat ++ webhook

/-- Runs deliveries one after the other. -/
def deliverAll : List (String × Act Outbox Bool) → StateM Outbox (List (String × Bool))
  | [] => pure []
  | (channel, send) :: r => do
    let delivered ← deliver send
    let rest ← deliverAll r
    return (channel, delivered) :: rest

/-- Delivers a payload over the channels of a rule. Nothing is sent before all texts are ready. -/
def dispatch (m : MailAccount) (rule : AlarmRule) (payload : Fields) :
    Act Outbox (List (String × Bool)) := do
  deliverAll (← Act.ofExcept (sends m rule.delivery payload))

end Delivery

end Logbook

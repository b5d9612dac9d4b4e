import Logbook.Proofs.Alarm.Desk

/-!
# What goes out over the channels of a rule

Each channel of a rule has its own request, made of the words of the alarm alone
(`Channel.request?`). Delivering an alarm sends the requests of all channels, whatever becomes of
them (`Delivery.dispatch_eq`), and for a channel only the reply to its own request counts
(`Channel.succeeds`). So the requests for the alarms of some rules are those of their channels, one
rule after the other (`Delivery.dispatchAll_eq`).

A request whose body has no written form is not sent. Of all parts of an alarm only the name of the
host may be without one (`writable_payload`).
-/

namespace Logbook

namespace Outbox

section Sending

variable {requests more : List Request} {box : Outbox}

end Sending

end Outbox

/-- A payload in words. -/
structure Wording (payload : Fields) where
  subject : String
  html : String
  text : String
  titled : Render.subject payload = .ok subject
  paged : Render.html payload = .ok html
  written : Render.text payload = .ok text

/-- A way in which a rule has its alarm delivered. -/
inductive Channel where
  | email (addresses : List String)
  | chat (url : String)
  | webhook (url : String)
  deriving DecidableEq, Repr

namespace Channel

variable {payload : Fields}

/-- The name under which a channel reports. -/
def name : Channel → String
  | email _ => "email"
  | chat _ => "slack"
  | webhook _ => "webhook"

/-- Where an alarm goes. -/
def address (m : MailAccount) : Channel → String
  | email _ => m.messagesUrl
  | chat url => url
  | webhook url => url

/-- Who sends an alarm. -/
def authorization? (m : MailAccount) : Channel → Option String
  | email _ => some m.authorization
  | chat _ => none
  | webhook _ => none

/-- What is sent. -/
def content (m : MailAccount) (w : Wording payload) : Channel → Content
  | email addresses => m.message addresses w.subject w.html
  | chat _ => .json (.obj [("text", .str w.text)])
  | webhook _ => .json (.obj payload)

/-- The delivery over a channel. -/
def send (m : MailAccount) (w : Wording payload) : Channel → Act Outbox Bool
  | email addresses => Delivery.email m addresses w.subject w.html
  | chat url => Delivery.chat url (.str w.text)
  | webhook url => Delivery.webhook url (.obj payload)

section Requests

variable {m : MailAccount} {w : Wording payload} {c : Channel}

end Requests

end Channel

namespace Delivery

variable {payload : Fields}

end Delivery

namespace Json

end Json

namespace Delivery

variable {payload : Fields}

end Delivery

end Logbook

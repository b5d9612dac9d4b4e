import Logbook.Alarm.Desk
import Logbook.Log.Deletion
import Logbook.Log.Intake
import Logbook.Query.Answer
import Logbook.Settings
import Logbook.Store.Stream

/-!
# The site

The service as a whole: its stores, the desk that raises alarms, the ingestion stream and a
clock. What it does is an action on this state. Each action works on one part through the
functions of that part, so the others stay as they are.
-/

namespace Logbook

/-- What became of the messages that a worker has handled. -/
structure Stats where
  processed : Nat := 0
  dropped : Nat := 0
  errors : Nat := 0
  deriving DecidableEq, Repr

/-- The state of the service. -/
structure Site where
  settings : Settings := {}
  mail : MailAccount := {}
  /-- The current time in microseconds since the start of 1970. -/
  now : Int
  /-- The number of identifiers drawn for logs. -/
  drawn : Nat := 0
  primary : Primary := {}
  index : SearchIndex := {}
  desk : Desk := { cache := {} }
  stream : Stream := {}
  /-- Are logs that arrive over HTTP queued in the stream? -/
  queued : Bool := false
  stats : Stats := {}

namespace Site

variable {α : Type}

/-- What alarms need besides the logs. -/
def policy (s : Site) : AlarmPolicy where
  debounceSeconds := s.settings.alarmDebounceTtlSeconds
  baseUrl := s.settings.appBaseUrl
  mail := s.mail

/-- How far candidates are scanned. -/
def scanLimits (s : Site) : ScanLimits where
  pageSize := s.settings.searchScanPageSize
  maxHits := s.settings.searchScanMaxHits

/-- How much is deleted at a time. -/
def deletionLimits (s : Site) : DeletionLimits where
  batchSize := s.settings.deleteBatchSize
  collectPageSize := s.settings.collectPageSize

/-- The current time in whole milliseconds, as the cache and the stream know it. -/
def clockMs (s : Site) : Int :=
  s.now.fdiv 1000

/-- The current time as text. -/
def nowText (s : Site) : String :=
  ((Moment.ofMicros? s.now).map (·.isoText)).getD ""

/-- An action on the primary store. -/
def onPrimary (a : Act Primary α) : Act Site α :=
  Act.onPart Site.primary (fun p s => { s with primary := p }) a

/-- An action on the index. -/
def onIndex (a : Act SearchIndex α) : Act Site α :=
  Act.onPart Site.index (fun i s => { s with index := i }) a

/-- An action on the stream. -/
def onStream (a : Act Stream α) : Act Site α :=
  Act.onPart Site.stream (fun t s => { s with stream := t }) a

/-- An action on the desk. -/
def onDesk (a : Act Desk α) : Act Site α :=
  Act.onPart Site.desk (fun d s => { s with desk := d }) a

/-- What a part of the state says. -/
def ask (f : Site → Except Fault α) : Act Site α :=
  fun s => (f s, s)

end Site

end Logbook

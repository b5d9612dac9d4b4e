import Logbook.Site.Command
import Logbook.Site.Lifecycle
import Logbook.Store.Database
import Logbook.Proofs.Alarm.Level
import Logbook.Proofs.Alarm.Metadata
import Logbook.Proofs.Alarm.Page
import Logbook.Proofs.Phrase.Verbatim
import Logbook.Proofs.Query.Operators
import Logbook.Proofs.Site.Atomicity
import Logbook.Proofs.Site.Cleanup
import Logbook.Proofs.Site.Conservation
import Logbook.Proofs.Site.History
import Logbook.Proofs.Site.Isolation
import Logbook.Proofs.Site.LostAlarms
import Logbook.Proofs.Site.Mirroring
import Logbook.Proofs.Site.Overlap
import Logbook.Proofs.Site.Preview
import Logbook.Proofs.Site.Purge
import Logbook.Proofs.Site.Queue
import Logbook.Proofs.Site.Retention
import Logbook.Proofs.Site.Stalling
import Logbook.Proofs.Store.Reclaim
import Logbook.Proofs.Store.Unchanging
import Logbook.Proofs.Site.Outcome
import Logbook.Proofs.Time.Precision

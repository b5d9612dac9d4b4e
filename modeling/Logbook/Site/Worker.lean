import Logbook.Log.Received
import Logbook.Site.Ingestion

/-!
# The ingestion worker

A worker takes messages from the stream and ingests them. A message is acknowledged once its log
is stored, or if it can never be: without data, rejected, or for a project that does not exist. All
others stay pending and are claimed again after a minute.
-/

namespace Logbook

/-- Can a payload with this fault never be stored? -/
def Fault.isFinal : Fault → Bool
  | .problem p => p.category == .input || p.category == .notFound
  | _ => false

/-- How long a worker sleeps after a round. -/
inductive Nap where
  | short
  | long
  deriving DecidableEq, Repr

/-- The length of a nap in seconds. -/
def Nap.seconds : Nap → Json
  | short => .float (Double.ofQuotient 1 10)
  | long => .int 5

namespace Site

/-- Acknowledges one entry. -/
def settle (id : String) (s : Site) : Site :=
  { s with stream := (s.stream.acknowledge [id]).2 }

/-- Counts a message that can never be stored, and acknowledges it. -/
def drop (id : String) (s : Site) : Site :=
  settle id { s with stats := { s.stats with dropped := s.stats.dropped + 1 } }

/-- The idle time, in milliseconds, after which a pending message is claimed again. -/
def reclaimAfter : Int := 60000

section Ingest

variable (ingest : LoadedFields → Act Site Unit)

/-- Handles one message by `ingest`; was its log stored? -/
def handleBy (m : Message) (s : Site) : Bool × Site :=
  match m.data with
  | none => (false, s.drop m.id)
  | some payload => match ingest payload s with
    | (.ok _, s) =>
      let s := s.settle m.id
      (true, { s with stats := { s.stats with processed := s.stats.processed + 1 } })
    | (.error f, s) =>
      if f.isFinal then (false, s.drop m.id)
      else (false, { s with stats := { s.stats with errors := s.stats.errors + 1 } })

/-- Handles messages one after the other. -/
def handleAllBy : List Message → Site → Site
  | [], s => s
  | m :: r, s => handleAllBy r (handleBy ingest m s).2

/-- One round: the next messages, or those to be claimed again, are handled. -/
def roundBy (s : Site) : Nap × Site :=
  match Stream.receive s.clockMs s.settings.batchSize.toNat s.stream with
  | (.error _, stream) => (.long, { s with stream := stream })
  | (.ok [], stream) =>
    let (ms, stream) := stream.claim s.clockMs reclaimAfter
    (.short, handleAllBy ingest ms { s with stream := stream })
  | (.ok ms, stream) => (.short, handleAllBy ingest ms { s with stream := stream })

end Ingest

/-- Stores the log of a payload from the stream. A text with half of a pair cannot be sent to the
primary store, neither to ask for a project nor in a record. -/
def ingestQueued (fs : LoadedFields) : Act Site Unit := do
  let r ← prepare (.obj fs.payload)
  if fs.isTorn "projectId" then throw .torn
  let _ ← ask fun s => s.primary.project r.projectId
  if fs.isUnwritable then throw .torn
  follow (← insert r)

/-- Handles one message; was its log stored? -/
def handle (m : Message) (s : Site) : Bool × Site :=
  handleBy ingestQueued m s

/-- One round of the worker of the site. -/
def round (s : Site) : Nap × Site :=
  roundBy ingestQueued s

/-- Rounds one after the other, and the naps between them. -/
def rounds : Nat → Site → List Nap × Site
  | 0, s => ([], s)
  | n + 1, s =>
    let (nap, s) := s.round
    let (naps, s) := rounds n s
    (nap :: naps, s)

end Site

end Logbook

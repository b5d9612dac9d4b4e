import Logbook.Site.Worker

/-!
# Start and end of a process

A process connects to its backing services and closes them at its end. The primary store and, once
it is in use, the stream have to be there; without the index or the cache the process starts all
the same. A worker has a stream service of its own, or shares that of the process.
-/

namespace Logbook

/-- A client that was created, and for what. -/
inductive ClientCall where
  | index (host : String) (port : Int) (auth : Option (String × String)) (ssl : Bool)
  | cache (url : String)
  | stream (url : String)
  deriving DecidableEq, Repr

/-- What fails while services are connected. -/
structure BootFaults where
  indexInfo : Bool := false
  cacheUrl : Bool := false
  cachePing : Bool := false
  streamUrl : Bool := false
  streamPing : Bool := false
  streamGroup : Bool := false
  deriving DecidableEq, Repr

/-- Which services a process is connected to, and what was done on the way. -/
structure Boot where
  settings : Settings
  faults : BootFaults := {}
  database : Bool := false
  index : Bool := false
  cache : Bool := false
  /-- The stream service of the process. -/
  stream : Bool := false
  /-- The stream service of a worker, where it is not that of the process. -/
  workerStream : Bool := false
  /-- The indexes that exist. -/
  indexNames : List String := []
  /-- Does the group of consumers exist? -/
  group : Bool := false
  /-- The clients created, in order. -/
  created : List ClientCall := []
  /-- How often a client of the cache was closed. -/
  cacheCloses : Nat := 0
  /-- How often a client of the stream was closed. -/
  streamCloses : Nat := 0
  deriving DecidableEq, Repr

/-- What can be seen of the connections of a process. -/
structure BootStatus where
  searchIndex : Bool
  cache : Bool
  /-- Nothing where the process has no stream. -/
  stream : Option Bool
  database : Bool
  indices : List String
  group : Bool
  cacheCloses : Nat
  streamCloses : Nat
  deriving DecidableEq, Repr

namespace Boot

/-- Notes that a client was created. -/
def note (c : ClientCall) : Act Boot Unit :=
  modify fun b => { b with created := b.created ++ [c] }

/-- Fails with `f` if a fault is set. -/
def failIf (fault : BootFaults → Bool) (f : Fault) : Act Boot Unit := do
  if fault (← get).faults then throw f

/-- The client of the index that settings ask for. -/
def indexClient (s : Settings) : ClientCall :=
  .index s.indexHost s.indexPort
    (if s.indexUser = "" then none
    else some (s.indexUser, s.indexPassword))
    s.indexSsl

/-- Connects the index and creates the index of the logs. -/
def connectIndex : Act Boot Unit := do
  let s := (← get).settings
  if s.useSearchIndex then
    note (indexClient s)
    modify fun b => { b with index := true }
    failIf (·.indexInfo) .unreachable
    modify fun b => { b with
      indexNames :=
        if s.logsIndex ∈ b.indexNames then b.indexNames else b.indexNames ++ [s.logsIndex] }

/-- Closes the index. -/
def closeIndex : Act Boot Unit :=
  modify fun b => { b with index := false }

/-- Connects the cache. -/
def connectCache : Act Boot Unit := do
  let s := (← get).settings
  if s.useCache then
    note (.cache s.keyStoreUrl)
    failIf (·.cacheUrl) .badValue
    modify fun b => { b with cache := true }
    failIf (·.cachePing) .unreachable

/-- Closes the cache. -/
def closeCache : Act Boot Unit :=
  modify fun b => { b with
    cache := false, cacheCloses := b.cacheCloses + (if b.cache then 1 else 0) }

/-- Connects a stream service and creates its group of consumers. -/
def connectStream (url : String) (opened : Boot → Boot) : Act Boot Unit := do
  note (.stream url)
  failIf (·.streamUrl) .badValue
  modify opened
  failIf (·.streamPing) .unreachable
  failIf (·.streamGroup) .response
  modify fun b => { b with group := true }

/-- The process's stream service has a client. -/
def streamOpened (b : Boot) : Boot := { b with stream := true }

/-- The worker's stream service has a client. -/
def workerOpened (b : Boot) : Boot := { b with workerStream := true }

/-- Closes the stream service of the process. -/
def closeStream : Act Boot Unit :=
  modify fun b => { b with
    stream := false, streamCloses := b.streamCloses + (if b.stream then 1 else 0) }

/-- Closes the stream service of a worker. -/
def closeWorkerStream : Act Boot Unit :=
  modify fun b => { b with
    workerStream := false, streamCloses := b.streamCloses + (if b.workerStream then 1 else 0) }

/-- Connects a service that can be done without. -/
def optional (connect close : Act Boot Unit) : Act Boot Unit :=
  tryCatch connect fun _ => close

/-- Connects a process. -/
def connect : Act Boot Unit := do
  modify fun b => { b with database := true }
  optional connectIndex closeIndex
  optional connectCache closeCache
  let s := (← get).settings
  if s.useIngestionStream then connectStream s.keyStoreUrl streamOpened

/-- Closes a process. -/
def close : Act Boot Unit := do
  if (← get).settings.useIngestionStream then closeStream
  closeIndex
  closeCache
  modify fun b => { b with database := false }

/-- Connects a process and its worker. The worker has a stream service of its own at `url`, or
shares that of the process. -/
def connectWorker (url : Option String) : Act Boot Unit := do
  connect
  match url with
  | some url => connectStream url workerOpened
  | none => connectStream (← get).settings.keyStoreUrl streamOpened

/-- Closes a worker and its process. -/
def closeWorker : Act Boot Unit := do
  closeWorkerStream
  closeStream
  close

/-- What can be seen of a process. -/
def status (b : Boot) : BootStatus where
  searchIndex := b.settings.useSearchIndex && b.index
  cache := b.settings.useCache && b.cache
  stream := if b.settings.useIngestionStream then some b.stream else none
  database := b.database
  indices := b.indexNames
  group := b.group
  cacheCloses := b.cacheCloses
  streamCloses := b.streamCloses

end Boot

/-- How a process went: the fault of its start, and what could be seen after its start and after
its end. -/
structure BootRun where
  fault : Option Fault
  opened : Boot
  closed : Boot

/-- The fault of an outcome. -/
def faultOf {α : Type} : Except Fault α → Option Fault
  | .ok _ => none
  | .error f => some f

namespace Boot

/-- Starts a process by `start` and ends it by `stop`. -/
def run (start stop : Act Boot Unit) (b : Boot) : BootRun :=
  let (r, opened) := start b
  ⟨faultOf r, opened, (stop opened).2⟩

/-- The link to a service that is in use or not, and connected or not. -/
def linkOf (used connected : Bool) : Link :=
  if !used then .disabled else if connected then .ready else .closed

/-- The site of a connected process. -/
def site (b : Boot) (now : Int) (stream : Stream) : Site where
  settings := b.settings
  mail := ⟨b.settings.mailKey, b.settings.mailDomain, b.settings.mailSender,
    b.settings.mailBase⟩
  now := now
  index := {
    link := linkOf b.settings.useSearchIndex b.index
    name := b.settings.logsIndex
    names := b.indexNames }
  desk := { cache := { link := linkOf b.settings.useCache b.cache, scope := b.settings.keyScope } }
  stream := stream
  queued := b.settings.useIngestionStream

end Boot

/-- How a worker process went: its exit code, the naps it took and the site it left. -/
structure WorkerRun where
  exit : Nat
  naps : List Nap
  site : Site
  closed : Boot

/-- Runs a worker process on a stream until it has taken some naps. It has a stream service of its
own. -/
def runWorker (b : Boot) (now : Int) (stream : Stream) (naps : Nat) : WorkerRun :=
  let run := Boot.run (Boot.connectWorker (some b.settings.keyStoreUrl)) Boot.closeWorker b
  let site := run.opened.site now stream
  match run.fault with
  | some _ => ⟨1, [], site, run.closed⟩
  | none =>
    let (taken, site) := site.rounds naps
    ⟨0, taken, site, run.closed⟩

end Logbook

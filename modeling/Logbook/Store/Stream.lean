import Logbook.Act
import Logbook.Json.Reader
import Logbook.Json.Text

/-!
# The ingestion stream

A queue of entries for one group of consumers. An entry is undelivered, then pending from its
delivery to its acknowledgement, then done. Pending entries can be claimed again once they have
been idle for long enough; the stream knows the time in whole milliseconds. An entry carries the
JSON text of a log payload in its field `data`.

The stream keeps the entries that are done as well. When the payload of a log is appended it may give
up some of its oldest entries, whatever has become of them, but keeps at least `Stream.maxLength`. An
entry that is given up before its delivery is never delivered; one that is pending stays so until it
is to be claimed, which is when it is found missing.
-/

namespace Logbook

/-- What the stream may be asked. -/
inductive StreamCall where
  | append
  | read
  | acknowledge
  | listPending
  | claim
  deriving DecidableEq, Repr

/-- An entry and its identifier. -/
structure StreamEntry where
  id : String
  fields : Fields
  deriving DecidableEq, Repr

/-- A delivered entry and the moment of its last delivery, in milliseconds. -/
structure PendingEntry where
  entry : StreamEntry
  since : Int
  deriving DecidableEq, Repr

/-- A message for a consumer: its data is an object, or nothing if it could not be read. -/
structure Message where
  id : String
  data : Option LoadedFields
  deriving DecidableEq, Repr

namespace Message

/-- The message as it is answered. -/
def toJson (m : Message) : Json :=
  .obj [("message_id", .str m.id), ("data", .orNull (fun fs => (Loaded.obj fs).mended) m.data)]

end Message

/-- The stream and its group of consumers. -/
structure Stream where
  /-- The entries that have been delivered and not been given up, in order. -/
  delivered : List StreamEntry := []
  /-- The entries that have not been delivered, in order. -/
  waiting : List StreamEntry := []
  /-- The delivered entries that have not been acknowledged, in the order of their delivery. -/
  pending : List PendingEntry := []
  /-- The number of entries ever appended. -/
  appended : Nat := 0
  calls : Nat := 0
  outage : Outage StreamCall := fun _ _ => none
  /-- How many of its oldest entries the stream would give up at a call that lets it. -/
  surplus : Nat → Nat := fun _ => 0
  /-- What the reading of an entry breaks down with, if it does: its text may be more than the machine
  can go through. -/
  breakdown : StreamEntry → Option Fault := fun _ => none

/-- The number of pending entries that are looked at in one claim. -/
def claimLimit : Nat := 100

/-- The number of entries that are kept at least. -/
def Stream.maxLength : Nat := 100000

namespace Stream

/-- The identifier of the entry behind `n` others. -/
def entryId (n : Nat) : String :=
  toString (n + 1) ++ "-0"

/-- The entries that have not been given up, in order. -/
def entries (s : Stream) : List StreamEntry :=
  s.delivered ++ s.waiting

/-- The message of an entry. Text that is no JSON object gives a message without data; data that
is not a text cannot be decoded at all. -/
def decode (e : StreamEntry) : Except Fault Message :=
  match e.fields.lookup "data" with
  | none => .ok ⟨e.id, none⟩
  | some (.str s) => match Loaded.read s.toList with
    | some (.obj fs) => .ok ⟨e.id, some fs⟩
    | _ => .ok ⟨e.id, none⟩
  | some _ => .error .wrongType

/-- The message of an entry, unless its reading breaks down. -/
def message (s : Stream) (e : StreamEntry) : Except Fault Message :=
  match s.breakdown e with
  | some f => .error f
  | none => decode e

/-- The messages of entries. -/
def messages (s : Stream) : List StreamEntry → Except Fault (List Message)
  | [] => .ok []
  | e :: r => do
    let m ← s.message e
    let ms ← s.messages r
    return m :: ms

/-- The milliseconds since the last delivery. -/
def idleMs (now : Int) (p : PendingEntry) : Int :=
  now - p.since

/-- The fault of the next call, if it fails. -/
def fault? (s : Stream) (c : StreamCall) : Option Fault :=
  s.outage s.calls c

/-- The stream after one more call. -/
def called (s : Stream) : Stream :=
  { s with calls := s.calls + 1 }

/-- The stream with one more entry, and its identifier. -/
def push (fields : Fields) (s : Stream) : String × Stream :=
  let e : StreamEntry := ⟨entryId s.appended, fields⟩
  (e.id, { s with waiting := s.waiting ++ [e], appended := s.appended + 1 })

/-- The stream without its `n` oldest entries. -/
def giveUp (n : Nat) (s : Stream) : Stream :=
  { s with
    delivered := s.delivered.drop n
    waiting := s.waiting.drop (n - s.delivered.length) }

/-- The stream without `n` of its oldest entries, or as many of these as it has beyond `maxLength`. -/
def trim (n : Nat) (s : Stream) : Stream :=
  s.giveUp (min n (s.entries.length - maxLength))

/-- Appends an entry, and may give up old ones. -/
def append (fields : Fields) : Act Stream String := do
  let s ← get
  set s.called
  match s.fault? .append with
  | some f => throw f
  | none =>
    let (id, t) := s.called.push fields
    set (t.trim (s.surplus s.calls))
    return id

/-- Appends the payload of a log. -/
def enqueue (log : Json) : Act Stream String :=
  append [("data", .str log.spaced)]

/-- Delivers up to `count` entries. -/
def deliver (now : Int) (count : Nat) (s : Stream) : List StreamEntry × Stream :=
  let es := s.waiting.take count
  (es, { s with
    delivered := s.delivered ++ es
    waiting := s.waiting.drop count
    pending := s.pending ++ es.map (⟨·, now⟩) })

/-- The next messages, at most `count`; none where the stream fails. Entries that cannot be
decoded are delivered all the same. -/
def receive (now : Int) (count : Nat) : Act Stream (List Message) := do
  let s ← get
  set s.called
  match s.fault? .read with
  | some _ => return []
  | none =>
    let (es, s) := s.called.deliver now count
    set s
    Act.ofExcept (s.messages es)

/-- Acknowledges entries; how many of them were pending? None where the stream fails. -/
def acknowledge (ids : List String) (s : Stream) : Nat × Stream :=
  if ids.isEmpty then (0, s)
  else match s.fault? .acknowledge with
    | some _ => (0, s.called)
    | none =>
      ((s.pending.filter fun p => ids.contains p.entry.id).length,
        { s.called with pending := s.pending.filter fun p => !ids.contains p.entry.id })

/-- Delivers pending entries again: those among `ids` that have been idle for at least `minIdle`
milliseconds. Those among `ids` that have been given up are pending no longer. -/
def redeliver (now minIdle : Int) (ids : List String) (s : Stream) : List StreamEntry × Stream :=
  let asked (p : PendingEntry) := ids.contains p.entry.id
  let left := s.pending.filter fun p => !asked p || p.entry ∈ s.entries
  let due (p : PendingEntry) := asked p && decide (minIdle ≤ idleMs now p)
  ((left.filter due).map (·.entry),
    { s with pending := left.map fun p => if due p then { p with since := now } else p })

/-- Claims the pending entries that have been idle for more than `minIdle` milliseconds, among the
first `claimLimit`; none where the stream fails or an entry cannot be decoded. -/
def claim (now minIdle : Int) (s : Stream) : List Message × Stream :=
  match s.fault? .listPending with
  | some _ => ([], s.called)
  | none =>
    let idle := (s.pending.take claimLimit).filter fun p => minIdle < idleMs now p
    if idle.isEmpty then ([], s.called)
    else match s.called.fault? .claim with
      | some _ => ([], s.called.called)
      | none =>
        let (es, s) := s.called.called.redeliver now minIdle (idle.map (·.entry.id))
        match s.messages es with
        | .ok ms => (ms, s)
        | .error _ => ([], s)

end Stream

end Logbook

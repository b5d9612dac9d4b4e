import Logbook.Store.Primary
import Logbook.Store.SearchIndex

/-!
# Answering searches

A search is answered by the index or, where there is none or it cannot be reached, by the primary
store. The text query of the index lets through too much, so its hits are verified: with a text
filter all candidate pages are scanned, and only what the filter accepts is counted and cut into
pages. The primary store applies the same filter to all selected logs.
-/

namespace Logbook

/-- How far the candidates of a text query are scanned. -/
structure ScanLimits where
  pageSize : Int := 250
  maxHits : Int := 10000
  deriving DecidableEq, Repr

section Scan

variable {σ : Type} (search : SearchBody → Act σ Hits)

/-- The candidates found so far and those on the pages from `page` on, on at most `fuel` pages. -/
def candidatesFrom (q : IndexQuery) (limits : ScanLimits) :
    Nat → Int → List Fields → Act σ (List Fields)
  | 0, _, found => pure found
  | fuel + 1, page, found =>
    if limits.maxHits ≤ found.length then pure found
    else do
      let hits ← search (← Act.ofExcept (q.body (some page) (some limits.pageSize)))
      let found := found ++ hits.documents
      if hits.documents.isEmpty || hits.total ≤ page * limits.pageSize then return found
      else candidatesFrom q limits fuel (page + 1) found

/-- The candidates of a query, as far as they are scanned. Every page but the last brings at least
one, so there are no more pages than candidates wanted. -/
def candidates (q : IndexQuery) (limits : ScanLimits) : Act σ (List Fields) := do
  let found ← candidatesFrom search q limits limits.maxHits.toNat 1 []
  return found.take limits.maxHits.toNat

/-- The answer of an index. -/
def searchIndexed (limits : ScanLimits) (p : SearchParams) : Act σ ResultPage := do
  let q ← Act.ofExcept p.query
  match q.textFilter with
  | none =>
    let hits ← search (← Act.ofExcept q.body)
    return { logs := hits.documents, total := hits.total, page := p.page, pageSize := p.pageSize }
  | some t =>
    let verified ← Act.ofExcept (t.verify (← candidates search q limits))
    return { logs := pageOf verified p.page p.pageSize, total := verified.length, page := p.page,
             pageSize := p.pageSize }

end Scan

/-- Is the first log at most the second, by a field? -/
def SortField.atMost : SortField → LogEntry → LogEntry → Bool
  | timestamp, a, b => a.timestampMs ≤ b.timestampMs
  | created, a, b => a.createdAt ≤ b.createdAt
  | level, a, b => a.level ≤ b.level
  | environment, a, b => a.environment ≤ b.environment

/-- Logs in an order. Logs with equal values keep their order, downward as well. -/
def SortOrder.sort (o : SortOrder) (records : List LogEntry) : List LogEntry :=
  if o.descending then sortBy (fun a b => o.field.atMost b a) records
  else sortBy o.field.atMost records

/-- Logs in the order that a directive names; as they are where none is given. -/
def sortRecords (directive : Option String) (records : List LogEntry) :
    Except Fault (List LogEntry) :=
  match directive.filter (· ≠ "") with
  | none => .ok records
  | some d => match SortOrder.ofText? d with
    | some o => .ok (o.sort records)
    | none => .error (.problem (.badSort d))

/-- The logs that a search accepts, in the order of its answer. -/
def Primary.accepted (p : SearchParams) (db : Primary) : Except Fault (List Fields) := do
  let records ← db.find p.selection
  match p.textFilter? with
  | some t => t.verify (records.map (·.toFields))
  | none => return (← sortRecords p.sortBy records).map (·.toFields)

/-- The answer of the primary store. -/
def Primary.search (p : SearchParams) (db : Primary) : Except Fault ResultPage := do
  let logs ← db.accepted p
  return { logs := pageOf logs p.page p.pageSize, total := logs.length, page := p.page,
           pageSize := p.pageSize, source := .primary }

/-- Is the fault one of an index that cannot be reached? -/
def Fault.isIndexUnavailable : Fault → Bool
  | .problem p => p.category == .indexUnavailable
  | _ => false

/-- The answer of the index if it is available and answers, else that of the primary store. -/
def searchEither (db : Primary) (limits : ScanLimits) (p : SearchParams) :
    Act SearchIndex ResultPage := fun ix =>
  if ix.isOpen then
    match searchIndexed SearchIndex.search limits p ix with
    | (.ok page, ix) => (.ok page, ix)
    | (.error f, ix) => (if f.isIndexUnavailable then db.search p else .error f, ix)
  else (db.search p, ix)

/-- The answer to a search in a project that exists. -/
def searchProject (db : Primary) (limits : ScanLimits) (p : SearchParams) :
    Act SearchIndex ResultPage := do
  let _ ← Act.ofExcept (db.project p.projectId)
  searchEither db limits p

end Logbook

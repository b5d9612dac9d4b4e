import Logbook.Store.Primary
import Logbook.Store.SearchIndex

/-!
# Deleting logs

Logs are deleted from the primary store, in batches, and then from the search index as far as that
can be done: what fails there is left behind and changes nothing in the result. The documents to
delete are collected page by page before the first of them is deleted.
-/

namespace Logbook

/-- How much is deleted, or collected for deletion, at a time. -/
structure DeletionLimits where
  batchSize : Int := 500
  collectPageSize : Int := 250
  deriving DecidableEq, Repr

/-- The logs that a deletion names. -/
structure Doomed where
  projectId : String
  level : Option Wanted := none
  environment : Option Wanted := none
  bounds : TimeSpan := {}
  deriving DecidableEq, Repr

namespace Wanted

/-- The values as the value of a query. -/
def queryValue : Wanted → Json
  | one s => .str s
  | many ss => Json.strings ss

end Wanted

namespace Doomed

/-- The logs in the primary store. -/
def selection (d : Doomed) : Selection where
  projectId := d.projectId
  level := d.level
  environment := d.environment
  bounds := d.bounds

/-- The documents in the search index. -/
def query (d : Doomed) : IndexQuery where
  equal := ("project_id", .str d.projectId) ::
    [("level", d.level), ("environment", d.environment)].filterMap fun (f, w) =>
      (w.filter Wanted.isGiven).map fun w => (f, w.queryValue)
  bounds := (d.bounds.least.toList.map fun t => ⟨"timestamp_ms", ">=", .int t⟩) ++
    d.bounds.greatest.toList.map fun t => ⟨"timestamp_ms", "<=", .int t⟩
  sortBy := none

end Doomed

/-- A list cut into pieces of `n` items; the last piece may be shorter. -/
def batches {α : Type} (n : Nat) (xs : List α) : List (List α) :=
  (List.range ((xs.length + n - 1) / n)).map fun i => (xs.drop (i * n)).take n

/-- The batches of a list. There are no batches of no items, and none of fewer. -/
def batchesOf {α : Type} (size : Int) (xs : List α) : Except Fault (List (List α)) :=
  if size = 0 then .error .badValue
  else if size < 0 then .ok []
  else .ok (batches size.toNat xs)

/-- The number of logs that are deleted batch by batch, and the store without them. -/
def Primary.deleteBatches : List (List String) → Primary → Nat × Primary
  | [], db => (0, db)
  | ids :: r, db =>
    let (n, db) := db.deleteIds ids
    let (m, db) := Primary.deleteBatches r db
    (n + m, db)

/-- The batches in which the logs of a deletion go. They are read before any log is deleted. -/
def Primary.doomedBatches (limits : DeletionLimits) (d : Doomed) (db : Primary) :
    Except Fault (List (List String)) := do
  let _ ← db.project d.projectId
  batchesOf limits.batchSize (← db.findIds d.selection)

/-- Deletes the named logs from the primary store; how many were there? -/
def Primary.deleteDoomed (limits : DeletionLimits) (d : Doomed) : Act Primary Nat := do
  let db ← get
  let (n, db) := db.deleteBatches (← Act.ofExcept (db.doomedBatches limits d))
  set db
  return n

/-- The identifiers of documents, as far as they have one. -/
def documentIds (docs : List Fields) : List String :=
  docs.filterMap fun doc => filledField? doc "id"

section Collect

variable {σ : Type} (search : SearchBody → Act σ Hits)

/-- The identifiers found so far and those on the pages from `page` on, on at most `fuel` pages. -/
def collectFrom (q : IndexQuery) (pageSize : Int) :
    Nat → Int → List String → Act σ (List String)
  | 0, _, found => pure found
  | fuel + 1, page, found => do
    let hits ← search (← Act.ofExcept (q.body (some page) (some pageSize)))
    let found := found ++ documentIds hits.documents
    if hits.documents.isEmpty || hits.total ≤ page * pageSize then return found
    else collectFrom q pageSize fuel (page + 1) found

/-- The identifiers of the documents of a query, on at most `fuel` pages. -/
def collectIds (q : IndexQuery) (pageSize : Int) (fuel : Nat) : Act σ (List String) :=
  collectFrom search q pageSize fuel 1 []

end Collect

namespace SearchIndex

/-- The number of documents that are deleted one by one, and the index without them. A document
whose deletion fails stays. -/
def eraseEach : List String → SearchIndex → Nat × SearchIndex
  | [], ix => (0, ix)
  | id :: r, ix =>
    match erase id ix with
    | (.ok true, ix) => let (n, ix) := eraseEach r ix; (n + 1, ix)
    | (_, ix) => eraseEach r ix

/-- Deletes the documents of a query. Every page but the last holds a document, so there is at
most one page more than there are documents. -/
def eraseFound (q : IndexQuery) (pageSize : Int) (ix : SearchIndex) : Nat × SearchIndex :=
  if ix.isOpen then
    match collectIds search q pageSize (ix.documents.length + 2) ix with
    | (.ok ids, ix) => eraseEach ids ix
    | (.error _, ix) => (0, ix)
  else (0, ix)

end SearchIndex

end Logbook

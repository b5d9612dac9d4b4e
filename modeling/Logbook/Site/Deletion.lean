import Logbook.Log.Given
import Logbook.Query.Given
import Logbook.Site.Basic

/-!
# Deletion

Logs are deleted from the primary store; their documents follow as far as the index lets them. A
purge names the time of its logs by a window that has to be well formed.
-/

namespace Logbook.Site

/-- Deletes the documents of a query; how many were there? -/
def eraseFound (q : IndexQuery) : Act Site Nat := do
  let s ← get
  onIndex fun ix =>
    let (n, ix) := ix.eraseFound q s.settings.collectPageSize
    (.ok n, ix)

/-- Deletes logs; how many were there in the primary store? -/
def deleteDoomed (d : Doomed) : Act Site Nat := do
  let s ← get
  let n ← onPrimary (Primary.deleteDoomed s.deletionLimits d)
  let _ ← eraseFound d.query
  return n

/-- Deletes the logs of a time window; how many were there? -/
def purge (projectId : String) (level environment : Option Wanted)
    (lookback range : Option String) : Act Site Nat := do
  let bounds ← ask fun s => requireBounds s.now lookback range
  deleteDoomed ⟨projectId, level, environment, bounds⟩

/-- Deletes the documents of a query as it is given; how many were there? A request that cannot be
written deletes nothing, unless the line for people cannot be written either. -/
def eraseGiven (q : GivenQuery) : Act Site Nat := do
  let s ← get
  if !s.index.isOpen then return 0
  match q.query s.settings.collectPageSize with
  | .ok q => eraseFound q
  | .error _ =>
    let _ ← Act.ofExcept q.clauseText
    return 0

/-- The logs that some conditions doom in a project that exists. -/
def doomed (fs : Fields) : Act Site Doomed := do
  let project ← ask fun s => s.primary.projectOf (fs.get "project_id")
  Act.ofExcept (Doomed.ofFields project.slug fs)

/-- Deletes the logs that some conditions doom; how many were there? -/
def deleteGiven (fs : Fields) : Act Site Nat := do
  if !fs.areAmong ["project_id", "level", "environment", "min_timestamp_ms", "max_timestamp_ms"]
    then throw .wrongType
  deleteDoomed (← doomed fs)

/-- Deletes the logs of a time window that some conditions doom; how many were there? -/
def purgeGiven (fs : Fields) : Act Site Nat := do
  if !fs.areAmong ["project_id", "level", "environment", "lookback_time", "time_range"] then
    throw .wrongType
  let (lookback, range) ← Act.ofExcept (windowTexts (fs.get "lookback_time") (fs.get "time_range"))
  let bounds ← ask fun s => requireBounds s.now lookback range
  deleteDoomed { ← doomed fs with bounds := bounds }

end Logbook.Site

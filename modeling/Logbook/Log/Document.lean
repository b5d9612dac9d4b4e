import Logbook.Phrase.Surface

/-!
# Index documents

What the search index holds of a log: some of its fields as they are, and the texts of its stack
trace and its details.
-/

namespace Logbook

/-- The fields that a document takes over from a log. -/
def documentFields : List String :=
  ["id", "project_id", "log_type", "level", "environment", "hostname", "message", "stack_trace",
    "raw_stack_trace", "details", "request", "timestamp_ms", "created_at"]

/-- The document of a log. -/
def documentOf (log : Fields) : Fields :=
  documentFields.map (fun f => (f, log.get f)) ++
    [("stack_trace_text", .str (stackTraceText log)), ("detail_string", .str (detailsText log))]

end Logbook

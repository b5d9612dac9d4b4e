import Logbook.Log.Document
import Logbook.Log.Record

/-!
# Documents read like their logs

A document takes over the fields that the text surfaces are made of, and the two texts it holds
besides are the ones that would be made of those fields. So a filter that looks at a document sees
the same texts as one that looks at the log itself (`textsOn_documentOf`), and gives the same
verdict (`accepts_documentOf`). And what the index is asked about, the fields of a document that stand
for a surface, are these very texts (`surfaces_alike`).
-/

namespace Logbook

/-- In a table of values by name, each name has its value. -/
theorem lookup_tabulated {β : Type} (g : String → β) {names : List String} {f : String}
    (h : f ∈ names) : (names.map fun x => (x, g x)).lookup f = some (g f) := by
  induction names with
  | nil => simp at h
  | cons n r ih =>
    by_cases e : f = n
    · subst e
      simp
    · have hr : f ∈ r := by simpa [e] using h
      have hb : (f == n) = false := by simpa using e
      simp [List.lookup_cons, hb, ih hr]

section Document

variable (log : Fields)

/-- A field that documents take over is found in the document as it stands in the log. -/
theorem get_documentOf {f : String} (h : f ∈ documentFields) :
    (documentOf log).get f = log.get f := by
  simp [documentOf, Fields.get, List.lookup_append, lookup_tabulated _ h]

theorem get_documentOf_detailString :
    (documentOf log).get "detail_string" = .str (detailsText log) := rfl

/-- The message of a document is that of its log. -/
theorem messageValue_documentOf : messageValue (documentOf log) = messageValue log := by
  unfold messageValue
  rw [get_documentOf log (by decide)]

/-- The stack trace of a document reads like that of its log. -/
theorem stackTraceText_documentOf : stackTraceText (documentOf log) = stackTraceText log := by
  unfold stackTraceText filledField?
  rw [get_documentOf log (f := "raw_stack_trace") (by decide),
    get_documentOf log (f := "stack_trace") (by decide)]

/-- A detail text that counts as given is the text of the details. -/
theorem detailsText_of_filled {log : Fields} {s : String}
    (h : log.get "detail_string" = .str s) (hs : s ≠ "") : detailsText log = s := by
  simp [detailsText, filledField?, h, hs]

/-- The details of a document read like those of its log. An empty detail text does not count as
given, so the details themselves are then written once more, with the same result. -/
theorem detailsText_documentOf : detailsText (documentOf log) = detailsText log := by
  by_cases empty : detailsText log = ""
  · have own : filledField? log "detail_string" = none := by
      cases h : filledField? log "detail_string" with
      | none => rfl
      | some s =>
        have filled : s ≠ "" := by
          intro hs
          subst hs
          unfold filledField? at h
          split at h <;> simp_all
        simp [detailsText, h, filled] at empty
    have taken : filledField? (documentOf log) "detail_string" = none := by
      simp [filledField?, get_documentOf_detailString, empty]
    unfold detailsText
    rw [own, taken, get_documentOf log (f := "details") (by decide)]
  · exact detailsText_of_filled (get_documentOf_detailString log) empty

/-- A filter on any surface looks at the same texts in a document as in its log. -/
theorem textsOn_documentOf (s : Surface) : textsOn (documentOf log) s = textsOn log s := by
  cases s <;>
    simp only [textsOn, messageValue_documentOf, stackTraceText_documentOf, detailsText_documentOf]

/-- A filter gives the same verdict on a document as on its log. -/
theorem accepts_documentOf (t : SurfaceFilter) : t.accepts (documentOf log) = t.accepts log := by
  unfold SurfaceFilter.accepts
  rw [textsOn_documentOf]

end Document

section Fields

/-- A value, or the empty text where it is missing. -/
def Json.orBlank : Json → Json
  | .null => .str ""
  | v => v

/-- The texts of a surface as the index has them: the fields of a document that stand for it. -/
def Surface.fieldTexts (s : Surface) (doc : Fields) : List Json :=
  s.indexFields.map fun name => (doc.get name).orBlank

/-- A log's message is a text, if there is one. -/
def PlainMessage (log : Fields) : Prop :=
  log.get "message" = .null ∨ ∃ text, log.get "message" = .str text

/-- Stored logs have a text as their message. -/
theorem LogEntry.plainMessage (r : LogEntry) : PlainMessage r.toFields :=
  .inr ⟨r.message, rfl⟩

namespace PlainMessage

variable {log : Fields}

theorem orBlank_message (plain : PlainMessage log) :
    ((documentOf log).get "message").orBlank = messageValue log := by
  rw [get_documentOf log (by decide), messageValue]
  rcases plain with missing | ⟨text, is⟩
  · rw [missing]
    rfl
  · rw [is]
    by_cases blank : text = "" <;> simp [Json.orBlank, Json.orElse, Json.truthy, blank]

/-- The fields of a document that stand for a surface hold the texts of the log on that surface. -/
theorem fieldTexts_documentOf (plain : PlainMessage log) (s : Surface) :
    s.fieldTexts (documentOf log) = textsOn log s := by
  have message := plain.orBlank_message
  have stackTrace : ((documentOf log).get "stack_trace_text").orBlank =
      .str (stackTraceText log) := rfl
  have details : ((documentOf log).get "detail_string").orBlank = .str (detailsText log) := rfl
  cases s <;>
    simp only [Surface.fieldTexts, Surface.indexFields, textsOn, List.map_cons, List.map_nil,
      message, stackTrace, details]

end PlainMessage

/-- What the index is asked about, what a filter looks at in a document and what it looks at in the log
are the same texts, whatever the stack trace and the details of the log are. -/
theorem surfaces_alike (s : Surface) :
    (∀ log : Fields, PlainMessage log → s.fieldTexts (documentOf log) = textsOn (documentOf log) s ∧
      s.fieldTexts (documentOf log) = textsOn log s) ∧
    ∀ r : LogEntry, PlainMessage r.toFields := by
  refine ⟨fun log plain => ?_, LogEntry.plainMessage⟩
  have fields := plain.fieldTexts_documentOf s
  exact ⟨fields.trans (textsOn_documentOf log s).symm, fields⟩

/-- A log without a message, with a frame that is no object and with an empty detail text. -/
def sparseLog : Fields :=
  [("id", .str "log-1"), ("raw_stack_trace", .null),
    ("stack_trace", .arr [.int 7, .obj [("message", .str "TypeError"), ("line", .int 7)]]),
    ("details", .obj [("codes", .arr [.int 1, .null])]), ("detail_string", .str "")]

theorem surfaces_alike_sparseLog : PlainMessage sparseLog ∧
    Surface.document.fieldTexts (documentOf sparseLog) =
      [.str "", .str "TypeError 7", .str "\x7b\"codes\":[1,null]\x7d"] ∧
    textsOn (documentOf sparseLog) .document =
      [.str "", .str "TypeError 7", .str "\x7b\"codes\":[1,null]\x7d"] := by
  have plain : PlainMessage sparseLog := .inl (by decide)
  have texts : textsOn sparseLog .document =
      [.str "", .str "TypeError 7", .str "\x7b\"codes\":[1,null]\x7d"] := by decide
  obtain ⟨document, log⟩ := (surfaces_alike .document).1 sparseLog plain
  rw [texts] at log
  exact ⟨plain, log, document.symm.trans log⟩

end Fields

end Logbook

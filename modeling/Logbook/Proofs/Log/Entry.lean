import Logbook.Proofs.Log.Document
import Logbook.Store.Primary
import Mathlib.Data.List.Basic

/-!
# Stored logs and the filters on them

A stored log always has texts on each surface, so a filter never fails on it: its verdict is that
of `PhraseFilter.holds` on one of `LogEntry.texts`. The columns of the store keep a log as it is
but for its request, if its host name, its raw stack trace and its detail text are texts or absent
(`LogEntry.Plain`); nothing that a search looks at is lost.
-/

namespace Logbook

/-- A text, or nothing at all. -/
def Json.isPlain : Json → Bool
  | .null | .str _ => true
  | _ => false

namespace LogEntry

/-- The texts of a log on a surface. -/
def texts (r : LogEntry) : Surface → List String
  | .document => [r.message, stackTraceText r.toFields, detailsText r.toFields]
  | .message => [r.message]
  | .stackTrace => [stackTraceText r.toFields]
  | .details => [detailsText r.toFields]

/-- The fields that clients may leave out are texts where they are given. -/
structure Plain (r : LogEntry) : Prop where
  hostname : r.hostname.isPlain
  rawStackTrace : r.rawStackTrace.isPlain
  detailString : r.detailString.isPlain

/-- A log with the form that its request has in a column. -/
def kept (r : LogEntry) : LogEntry :=
  { r with request := Column.json r.request }

/-- A message that is there is shown as it is. -/
theorem messageValue_toFields (r : LogEntry) : messageValue r.toFields = .str r.message := by
  have field : r.toFields.get "message" = .str r.message := rfl
  unfold messageValue
  rw [field]
  by_cases h : r.message = "" <;> simp [Json.orElse, Json.truthy, h]

/-- What a filter looks at in a log are its texts. -/
theorem textsOn_toFields (r : LogEntry) (s : Surface) :
    textsOn r.toFields s = (r.texts s).map .str := by
  cases s <;> simp [textsOn, texts, messageValue_toFields]

/-- The request of a log has no part in its texts. -/
theorem texts_kept (r : LogEntry) (s : Surface) : r.kept.texts s = r.texts s := by
  cases s <;> rfl

end LogEntry

/-- A filter is asked about a text without fail. -/
theorem PhraseFilter.test_str (f : PhraseFilter) (s : String) : f.test (.str s) = .ok (f.holds s) := by
  unfold PhraseFilter.test
  split
  · next h => simp [PhraseFilter.holds, h]
  · rfl

/-- On texts alone, one that the filter holds of is enough. -/
theorem PhraseFilter.testAny_strings (f : PhraseFilter) (ss : List String) :
    f.testAny (ss.map .str) = .ok (ss.any f.holds) := by
  induction ss with
  | nil => rfl
  | cons s r ih =>
    simp only [List.map_cons, PhraseFilter.testAny, f.test_str, List.any_cons]
    cases f.holds s
    · exact ih
    · rfl

namespace SurfaceFilter

/-- Does a filter hold of one of the texts that a log has on its surface? -/
def holds (t : SurfaceFilter) (r : LogEntry) : Bool :=
  (r.texts t.surface).any t.filter.holds

theorem accepts_toFields (t : SurfaceFilter) (r : LogEntry) :
    t.accepts r.toFields = .ok (t.holds r) := by
  unfold accepts holds
  rw [r.textsOn_toFields, PhraseFilter.testAny_strings]

theorem holds_kept (t : SurfaceFilter) (r : LogEntry) : t.holds r.kept = t.holds r := by
  unfold holds
  rw [r.texts_kept]

/-- Where the filter has a verdict on each log, verifying leaves those that it accepts. -/
theorem verify_map {α : Type} (t : SurfaceFilter) (fields : α → Fields) (test : α → Bool)
    (verdict : ∀ a, t.accepts (fields a) = .ok (test a)) (xs : List α) :
    t.verify (xs.map fields) = .ok ((xs.filter test).map fields) := by
  induction xs with
  | nil => rfl
  | cons a r ih =>
    simp only [List.map_cons, verify, verdict, ih, List.filter_cons]
    cases test a <;> rfl

/-- Logs that can be verified leave those that the filter accepts. -/
theorem eq_filter_of_verify {t : SurfaceFilter} {logs verified : List Fields}
    (done : t.verify logs = .ok verified) :
    verified = logs.filter fun log => t.accepts log = .ok true := by
  induction logs generalizing verified with
  | nil =>
    cases done
    rfl
  | cons log r ih =>
    unfold verify at done
    cases verdict : t.accepts log with
    | error f =>
      rw [verdict] at done
      cases done
    | ok accepted =>
      cases others : t.verify r with
      | error f =>
        rw [verdict, others] at done
        cases done
      | ok rest =>
        rw [verdict, others] at done
        cases done
        rw [List.filter_cons, verdict, ← ih others]
        cases accepted <;> rfl

/-- Verifying logs leaves those whose texts the filter holds of. -/
theorem verify_toFields (t : SurfaceFilter) (logs : List LogEntry) :
    t.verify (logs.map (·.toFields)) = .ok ((logs.filter t.holds).map (·.toFields)) :=
  t.verify_map (·.toFields) t.holds t.accepts_toFields logs

/-- Verifying the documents of logs leaves those of the same logs. -/
theorem verify_documents (t : SurfaceFilter) (logs : List LogEntry) :
    t.verify (logs.map fun r => documentOf r.toFields) =
      .ok ((logs.filter t.holds).map fun r => documentOf r.toFields) := by
  apply t.verify_map (fun r => documentOf r.toFields) t.holds
  intro r
  rw [accepts_documentOf, t.accepts_toFields]

end SurfaceFilter

/-- A text column takes texts, and nothing, as they are. -/
theorem Column.text_of_isPlain {v : Json} (h : v.isPlain) : Column.text v = .ok v := by
  cases v with
  | null => rfl
  | str s => rfl
  | _ => simp [Json.isPlain] at h

/-- Does a text column refuse a value? It takes no list, no object and no integer beyond a word. -/
def Json.isRefused : Json → Bool
  | .arr _ | .obj _ => true
  | .int n => !Word.holds n
  | _ => false

/-- A text column takes a value, or it refuses it for no reason that is reported as a problem. -/
theorem Column.text_cases (v : Json) :
    (v.isRefused = false ∧ ∃ w, Column.text v = .ok w) ∨
      v.isRefused = true ∧ ∃ f, Column.text v = .error f ∧ ∀ p, f ≠ .problem p := by
  cases v with
  | arr xs => exact .inr ⟨rfl, .column, rfl, nofun⟩
  | obj fs => exact .inr ⟨rfl, .column, rfl, nofun⟩
  | int n =>
    rw [Json.isRefused, text, integer]
    cases Word.holds n with
    | false => exact .inr ⟨rfl, .outOfRange, rfl, nofun⟩
    | true => exact .inl ⟨rfl, _, rfl⟩
  | float x => cases x <;> exact .inl ⟨rfl, _, rfl⟩
  | _ => exact .inl ⟨rfl, _, rfl⟩

namespace LogEntry

/-- The columns change a log in nothing but the fields that are kept as they were sent. -/
theorem eq_of_inColumns {r row : LogEntry} (kept : r.inColumns = .ok row) :
    row = { r with
      hostname := row.hostname
      rawStackTrace := row.rawStackTrace
      detailString := row.detailString
      request := row.request } := by
  have time : ∀ n m, Column.integer n = .ok m → m = n := by
    intro n m fits
    unfold Column.integer at fits
    split at fits
    · exact (Except.ok.inj fits).symm
    · cases fits
  unfold inColumns at kept
  cases hostname : Column.text r.hostname <;> rw [hostname] at kept
  case error => cases kept
  cases trace : Column.text r.rawStackTrace <;> rw [trace] at kept
  case error => cases kept
  cases detail : Column.text r.detailString <;> rw [detail] at kept
  case error => cases kept
  cases fits : Column.integer r.timestampMs <;> rw [fits] at kept
  case error => cases kept
  cases kept
  simp only [time _ _ fits]

/-- The column of the host name keeps what it takes of it. -/
theorem hostname_of_inColumns {r row : LogEntry} (kept : r.inColumns = .ok row) :
    Column.text r.hostname = .ok row.hostname := by
  unfold inColumns at kept
  cases hostname : Column.text r.hostname <;> rw [hostname] at kept
  case error => cases kept
  cases trace : Column.text r.rawStackTrace <;> rw [trace] at kept
  case error => cases kept
  cases detail : Column.text r.detailString <;> rw [detail] at kept
  case error => cases kept
  cases fits : Column.integer r.timestampMs <;> rw [fits] at kept
  case error => cases kept
  cases kept
  rfl

/-- Is a field or the time of a log refused by its column? -/
def isRefused (r : LogEntry) : Bool :=
  r.hostname.isRefused || r.rawStackTrace.isRefused || r.detailString.isRefused ||
    !Word.holds r.timestampMs

/-- The columns take a log if none of them refuses its part; otherwise it fails for no reason that
is reported as a problem. -/
theorem inColumns_cases (r : LogEntry) :
    (r.isRefused = false ∧ ∃ row, r.inColumns = .ok row) ∨
      r.isRefused = true ∧ ∃ f, r.inColumns = .error f ∧ ∀ p, f ≠ .problem p := by
  unfold inColumns isRefused
  rcases Column.text_cases r.hostname with ⟨host, v, kept⟩ | ⟨host, f, kept, unexplained⟩
  case inr => exact .inr ⟨by simp [host], f, by rw [kept]; rfl, unexplained⟩
  rcases Column.text_cases r.rawStackTrace with ⟨trace, w, kept'⟩ | ⟨trace, f, kept', unexplained⟩
  case inr => exact .inr ⟨by simp [trace], f, by rw [kept, kept']; rfl, unexplained⟩
  rcases Column.text_cases r.detailString with ⟨detail, x, kept''⟩ | ⟨detail, f, kept'', unexplained⟩
  case inr => exact .inr ⟨by simp [detail], f, by rw [kept, kept', kept'']; rfl, unexplained⟩
  rw [kept, kept', kept'', Column.integer]
  cases fits : Word.holds r.timestampMs with
  | false => exact .inr ⟨by simp, .outOfRange, rfl, nofun⟩
  | true => exact .inl ⟨by simp [host, trace, detail], _, rfl⟩

theorem id_of_inColumns {r row : LogEntry} (kept : r.inColumns = .ok row) : row.id = r.id := by
  rw [eq_of_inColumns kept]

/-- The columns take a plain log exactly if a word holds its time. -/
theorem inColumns_of_plain {r : LogEntry} (h : r.Plain) :
    r.inColumns = if Word.holds r.timestampMs then .ok r.kept else .error .outOfRange := by
  unfold inColumns
  rw [Column.text_of_isPlain h.hostname, Column.text_of_isPlain h.rawStackTrace,
    Column.text_of_isPlain h.detailString]
  unfold Column.integer
  by_cases fits : Word.holds r.timestampMs
  · simp only [if_pos fits]
    rfl
  · simp only [if_neg fits]
    rfl

end LogEntry

end Logbook

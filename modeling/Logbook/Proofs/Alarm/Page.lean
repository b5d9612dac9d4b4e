import Logbook.Proofs.Alarm.Payload
import Logbook.Proofs.Text.Display
import Logbook.Proofs.Text.Markup

/-!
# The page of an alarm

Much of what a page shows comes from clients: the message, the stack trace, the name of the host, and
both the keys and the values of the metadata. None of it has a say in how the page is made up. The
page is that of a template (`AlarmTexts.tags`), which depends on nothing but the number of rows and on
whether there is a stack trace; all marks in it are those of the template, and a reader finds each text
in its place as the payload has it (`alarmPage_read`).
-/

namespace Logbook

open Markup

/-- What the page of an alarm shows: of each row of its table the label and the text. -/
structure AlarmTexts where
  message : String
  rows : List (String × String)
  stackTrace : String
  link : String
  deriving DecidableEq, Repr

/-- The texts of values, but for the empty ones. -/
def filledTexts (rows : List (String × Json)) : List (String × String) :=
  (rows.map fun row => (row.1, row.2.display)).filter fun row => row.2 ≠ ""

section Filled

variable {row : String × Json}

theorem filledTexts_cons_of_ne (shown : row.2.display ≠ "") (rows : List (String × Json)) :
    filledTexts (row :: rows) = (row.1, row.2.display) :: filledTexts rows := by
  simp [filledTexts, shown]

theorem filledTexts_cons_of_eq (blank : row.2.display = "") (rows : List (String × Json)) :
    filledTexts (row :: rows) = filledTexts rows := by
  simp [filledTexts, blank]

end Filled

namespace AlarmTexts

/-- The values that have a row, with the labels of the rows: some fields of the payload, and its
metadata. -/
def values (payload : Fields) : List (String × Json) :=
  [("Project", payload.get "projectName"), ("Level", payload.get "level"),
    ("Environment", payload.get "environment"), ("Type", payload.get "logType"),
    ("Time", payload.get "timestamp"), ("Host", payload.get "hostname")] ++
    match payload.get "request" with
    | .obj entries => entries
    | _ => []

/-- What is shown of a payload. -/
def ofPayload (payload : Fields) : AlarmTexts where
  message := (payload.get "message").display
  rows := filledTexts (values payload)
  stackTrace := (payload.get "stackTrace").display
  link := (payload.get "link").display

/-- The tags of an element with nothing but a text in it. -/
def element (name text : String) : List Tag :=
  [{ name := name }, { before := text, name := "/" ++ name }]

/-- The tags of a row: two cells. -/
def rowTags (row : String × String) : List Tag :=
  [{ name := "tr" }] ++ element "th" row.1 ++ element "td" row.2 ++ [{ name := "/tr" }]

/-- The block of a stack trace, if there is one. -/
def blockTags (stackTrace : String) : List Tag :=
  if stackTrace = "" then [] else element "pre" stackTrace

/-- The tags of a page: a heading, a table, the block of the stack trace and a link. -/
def tags (x : AlarmTexts) : List Tag :=
  element "h2" x.message ++ [{ name := "table" }] ++ x.rows.flatMap rowTags ++
    [{ name := "/table" }] ++ blockTags x.stackTrace ++
    [{ name := "p" }, { name := "a href=", value? := some x.link },
      { before := "View log", name := "/a" }, { name := "/p" }]

section Tags

theorem isPlain_element (name text : String) (plain : name.toList.all (!isMark ·)) :
    (element name text).all Tag.isPlain := by
  have slash : isMark '/' = false := rfl
  simp [element, Tag.isPlain, plain, slash]

theorem isPlain_rowTags (row : String × String) : (rowTags row).all Tag.isPlain := by
  simp only [rowTags, List.all_append, isPlain_element "th" row.1 (by decide),
    isPlain_element "td" row.2 (by decide)]
  rfl

theorem isPlain_blockTags (stackTrace : String) : (blockTags stackTrace).all Tag.isPlain := by
  unfold blockTags
  split
  · rfl
  · exact isPlain_element "pre" stackTrace (by decide)

/-- The names of the tags have no marks in them. -/
theorem isPlain_tags (x : AlarmTexts) : ∀ t ∈ x.tags, t.isPlain := by
  have rows : (x.rows.all fun row => (rowTags row).all Tag.isPlain) = true :=
    List.all_eq_true.2 fun row _ => isPlain_rowTags row
  rw [← List.all_eq_true]
  simp only [tags, List.all_append, List.all_flatMap, rows, isPlain_blockTags,
    isPlain_element "h2" x.message (by decide)]
  simp [Tag.isPlain, isMark]

end Tags

end AlarmTexts

/-- Does a value count as given exactly if it shows something? -/
def Json.IsFrank (v : Json) : Prop :=
  v.truthy = true ↔ v.display ≠ ""

theorem Json.isFrank_str (s : String) : (Json.str s).IsFrank := by
  simp [IsFrank, truthy]

/-- What is put in the place of values that do not count as given shows nothing. -/
theorem Json.isFrank_orElse (v : Json) : (v.orElse (.str "")).IsFrank := by
  unfold orElse
  cases given : v.truthy with
  | false => exact isFrank_str ""
  | true =>
    have filled : v ≠ .str "" := by
      rintro rfl
      cases given
    exact iff_of_true given (display_ne_empty filled)

namespace Render

open AlarmTexts

/-- The characters of pieces. -/
def writing (pieces : List Piece) : List Char :=
  pieces.flatMap (·.write.toList)

theorem writing_append (pieces more : List Piece) :
    writing (pieces ++ more) = writing pieces ++ writing more :=
  List.flatMap_append

theorem toList_join_write (pieces : List Piece) :
    (String.join (pieces.map (·.write))).toList = writing pieces := by
  rw [String.toList_join, List.flatMap_map, writing]

/-- A row is written as its tags are. -/
theorem writing_row (label : String) (v : Json) :
    writing (row label v) = (rowTags (label, v.display)).flatMap Tag.written := by
  simp [writing, row, Piece.write, rowTags, element, Tag.written, escape]

theorem table_cons (row : String × Json) (rows : List (String × Json)) :
    table (row :: rows) = (if row.2.truthy then Render.row row.1 row.2 else []) ++ table rows := by
  by_cases given : row.2.truthy = true <;> simp [table, given]

/-- The table has a row for each value that shows something. -/
theorem writing_table {rows : List (String × Json)} (frank : ∀ row ∈ rows, row.2.IsFrank) :
    writing (table rows) = ((filledTexts rows).flatMap rowTags).flatMap Tag.written := by
  induction rows with
  | nil => rfl
  | cons row rows ih =>
    obtain ⟨first, others⟩ := List.forall_mem_cons.1 frank
    rw [table_cons, writing_append, ih others]
    by_cases given : row.2.truthy = true
    · rw [if_pos given, writing_row, filledTexts_cons_of_ne (first.1 given), List.flatMap_cons,
        List.flatMap_append]
    · have blank : row.2.display = "" := not_not.1 fun shown => given (first.2 shown)
      rw [if_neg given, filledTexts_cons_of_eq blank]
      rfl

theorem stackBlock_eq {payload : Fields} {s : String}
    (stack : part payload "stackTrace" = .ok (.str s)) :
    stackBlock payload =
      .ok (if s = "" then [] else [.markup "<pre>", .shown s, .markup "</pre>"]) := by
  rw [stackBlock, stack]
  by_cases blank : s = "" <;> simp [bind, Except.bind, Json.truthy, shownText, blank, pure, Except.pure]

/-- The pieces of a page are written as its tags are. -/
theorem writing_page (message stack link : String) {rows : List (String × Json)}
    (frank : ∀ row ∈ rows, row.2.IsFrank) :
    writing ([.markup "<h2>", .shown message, .markup "</h2>", .markup "<table>"] ++ table rows ++
        [.markup "</table>"] ++
        (if stack = "" then [] else [.markup "<pre>", .shown stack, .markup "</pre>"]) ++
        [.markup "<p>", .markup "<a href=\"", .shown link, .markup "\">", .shown "View log",
          .markup "</a>", .markup "</p>"]) =
      (tags ⟨message, filledTexts rows, stack, link⟩).flatMap Tag.written := by
  have heading : writing [.markup "<h2>", .shown message, .markup "</h2>", .markup "<table>"] =
      (element "h2" message ++ [({ name := "table" } : Tag)]).flatMap Tag.written := by
    simp [writing, Piece.write, element, Tag.written, escape]
  have block : writing (if stack = "" then [] else [.markup "<pre>", .shown stack, .markup "</pre>"]) =
      (blockTags stack).flatMap Tag.written := by
    unfold blockTags
    split
    · rfl
    · simp [writing, Piece.write, element, Tag.written, escape]
  have foot : writing [.markup "<p>", .markup "<a href=\"", .shown link, .markup "\">",
        .shown "View log", .markup "</a>", .markup "</p>"] =
      ([{ name := "p" }, { name := "a href=", value? := some link },
        { before := "View log", name := "/a" }, { name := "/p" }] : List Tag).flatMap Tag.written := by
    simp [writing, Piece.write, Tag.written, escape]
  have shut : writing [.markup "</table>"] = List.flatMap Tag.written [{ name := "/table" }] := by
    simp [writing, Piece.write, Tag.written]
  simp only [writing_append, writing_table frank, heading, block, shut, foot, tags, List.flatMap_append]

end Render

namespace LogEntry

variable (r : LogEntry) (logId name base stamp : String)

/-- The values for the table are texts, but for the host's name, in whose place there is a text if it
does not count as given. -/
theorem isFrank_values :
    ∀ row ∈ AlarmTexts.values (r.payload logId name base stamp), row.2.IsFrank := by
  unfold AlarmTexts.values
  rw [List.forall_mem_append]
  constructor
  · simp only [List.forall_mem_cons]
    exact ⟨Json.isFrank_str name, Json.isFrank_str r.level, Json.isFrank_str r.environment,
      Json.isFrank_str r.logType.name, Json.isFrank_str stamp, Json.isFrank_orElse r.hostname, nofun⟩
  · intro row mem
    obtain ⟨leaf, -, rfl⟩ := List.mem_map.1 mem
    exact Json.isFrank_str leaf.2

/-- The page of the payload for a log is written as its tags are. -/
theorem exists_page :
    ∃ page, Render.html (r.payload logId name base stamp) = .ok page ∧ page.toList =
      (AlarmTexts.ofPayload (r.payload logId name base stamp)).tags.flatMap Tag.written := by
  rw [Render.html, Render.page, Render.stackBlock_eq rfl]
  refine ⟨_, rfl, ?_⟩
  rw [Render.toList_join_write]
  exact Render.writing_page _ _ _ (r.isFrank_values logId name base stamp)

end LogEntry

/-- Whatever a log, the name of its project and the base address are, a reader of the page of its alarm
finds the tags of the template, and in front of them and in the link the texts of the payload as they
are; and all marks of the page are those of the template. -/
theorem alarmPage_read (refs : References) {r : LogEntry} (dated : InCalendar r.timestampMs)
    (logId name base : String) :
    ∃ payload page, alarmPayload r.toFields logId name base = .ok payload ∧
      Render.html payload = .ok page ∧
      (cut page).map (·.read refs) = partsOf (AlarmTexts.ofPayload payload).tags ∧
      page.toList.filter isMark =
        borders ((partsOf (AlarmTexts.ofPayload payload).tags).map (·.kind)) := by
  obtain ⟨payload, written⟩ := (r.exists_payload_iff logId name base).2 dated
  obtain ⟨stamp, rfl⟩ := LogEntry.exists_stamp written
  obtain ⟨page, paged, made⟩ := r.exists_page logId name base stamp
  have plain := (AlarmTexts.ofPayload (r.payload logId name base stamp)).isPlain_tags
  exact ⟨_, page, written, paged, read_of_tags refs plain made, marks_of_tags plain made⟩

/-- A log with marks in its message, in its host's name and in the keys and values of its metadata. -/
def markedLog : LogEntry where
  id := "log-1"
  projectId := "\"><b>shop"
  logType := .application
  level := "error"
  environment := "<production>"
  hostname := .arr [.str "<host>"]
  message := "</h2><script>alert(\"1\")</script>"
  stackTrace := []
  rawStackTrace := .str "at <anonymous> &lt;1&gt;"
  details := []
  detailString := .null
  request := .obj [("headers", .obj [("</th>", .arr [.str "<td>", .null]), ("", .str "'")])]
  timestampMs := -1
  createdAt := "1970-01-01T00:00:00Z"

/-- What the page for this log shows. -/
def markedTexts : AlarmTexts where
  message := "</h2><script>alert(\"1\")</script>"
  rows := [("Project", "<shop>"), ("Level", "error"), ("Environment", "<production>"),
    ("Type", "application"), ("Time", "1969-12-31 23:59:59 UTC"), ("Host", "['<host>']"),
    ("headers.</th>", "<td>, None"), ("headers.", "'")]
  stackTrace := "at <anonymous> &lt;1&gt;"
  link := "https://logs\">/projects/\"><b>shop/logs/log-1"

theorem alarmPage_read_markedLog : InCalendar markedLog.timestampMs ∧
    ∃ payload page, alarmPayload markedLog.toFields "log-1" "<shop>" "https://logs\">" = .ok payload ∧
      Render.html payload = .ok page ∧
      (cut page).map (·.read .basic) = partsOf markedTexts.tags ∧
      page.toList.filter isMark = borders ((partsOf markedTexts.tags).map (·.kind)) := by
  have dated : InCalendar markedLog.timestampMs := by decide
  obtain ⟨payload, page, written, paged, read, marks⟩ :=
    alarmPage_read .basic dated "log-1" "<shop>" "https://logs\">"
  have shown : (alarmPayload markedLog.toFields "log-1" "<shop>" "https://logs\">").toOption.map
      AlarmTexts.ofPayload = some markedTexts := by decide +kernel
  rw [written] at shown
  rw [Option.some.inj shown] at read marks
  exact ⟨dated, payload, page, written, paged, read, marks⟩

end Logbook

import Logbook.Log.Intake
import Logbook.Proofs.Text.Integer
import Mathlib.Tactic.MkIffOfInductiveProp

/-!
# Which payloads are accepted

A payload is accepted if it is complete (`Fields.Complete`) and has a time stamp that can be read
(`Json.IsTime`). `LogEntry.ofPayload_outcome` says that the other ones are rejected as problems of the
input, but for those that are complete and have an infinite time stamp: these fail without a problem
that is explained.
-/

namespace Logbook

/-- A draft is made of the fields of its payload. -/
theorem Draft.payload_of_ofPayload {payload : Json} {d : Draft}
    (drafted : Draft.ofPayload payload = .ok d) : payload = .obj d.payload := by
  unfold Draft.ofPayload at drafted
  repeat' split at drafted
  all_goals cases drafted
  rfl

/-- What the tests of a payload report are problems of the input. -/
theorem Draft.category_of_ofPayload {payload : Json} {p : Problem}
    (refused : Draft.ofPayload payload = .error p) : p.category = .input := by
  unfold Draft.ofPayload at refused
  repeat' split at refused
  all_goals cases refused
  all_goals rfl

/-- A time stamp is read, or rejected, or infinite. -/
theorem readTimestamp_cases (v : Json) :
    (∃ n, readTimestamp v = .ok n) ∨ readTimestamp v = .error (.problem .badTimestamp) ∨
      (∃ negative, v = .float (.infinite negative)) ∧ readTimestamp v = .error .outOfRange := by
  cases v with
  | float x =>
    cases x with
    | infinite negative => exact .inr (.inr ⟨⟨negative, rfl⟩, rfl⟩)
    | nan => exact .inr (.inl rfl)
    | finite negative m e => exact .inl ⟨_, rfl⟩
  | str s =>
    rw [readTimestamp]
    cases Text.integer? s.toList with
    | none => exact .inr (.inl rfl)
    | some n => exact .inl ⟨n, rfl⟩
  | bool b => exact .inl ⟨_, rfl⟩
  | int n => exact .inl ⟨n, rfl⟩
  | _ => exact .inr (.inl rfl)

/-- A value stands for a time: a truth value, an integer, a finite number, or a text that writes an
integer. -/
def Json.IsTime : Json → Prop
  | .bool _ | .int _ => True
  | .float x => x.isFinite = true
  | .str s => Text.WritesInteger s.toList
  | _ => False

/-- The fields of a payload are those that are needed, and have the kinds that they should have where
they count as given. Nothing is said of the kind of the time stamp. -/
@[mk_iff]
structure Fields.Complete (fs : Fields) : Prop where
  needed : ∀ name ∈ neededFields, fs.get name ≠ .null ∧ fs.get name ≠ .str ""
  logType : (fs.get "logType").truthy = false ∨ ∃ t : LogType, fs.get "logType" = .str t.name
  details : (fs.get "details").truthy = false ∨ ∃ details, fs.get "details" = .obj details
  stackTrace : (fs.get "stackTrace").truthy = false ∨ ∃ items, fs.get "stackTrace" = .arr items

theorem readTimestamp_ok_iff {v : Json} : (∃ n, readTimestamp v = .ok n) ↔ v.IsTime := by
  cases v with
  | float x => cases x <;> simp [readTimestamp, Json.IsTime, Double.isFinite, Double.truncate?, Double.ratio?]
  | str s =>
    rw [Json.IsTime, ← Text.integer?_isSome_iff, readTimestamp]
    cases Text.integer? s.toList <;> simp
  | _ => simp [readTimestamp, Json.IsTime]

/-- A value or its stand-in is of a kind if the value does not count as given or is of the kind. -/
theorem Json.exists_orElse_iff {α : Type} {v : Json} (kind : α → Json) (a : α) :
    (∃ b, v.orElse (kind a) = kind b) ↔ v.truthy = false ∨ ∃ b, v = kind b := by
  unfold orElse
  cases given : v.truthy with
  | true => simp
  | false => exact iff_of_true ⟨a, rfl⟩ (.inl rfl)

theorem LogType.exists_ofJson?_iff {v : Json} :
    (∃ t, ofJson? v = some t) ↔ ∃ t : LogType, v = .str t.name := by
  constructor
  · rintro ⟨t, known⟩
    cases v with
    | str s =>
      simp only [ofJson?, List.lookup_cons, List.lookup_nil] at known
      split at known
      · next same => exact ⟨.application, congrArg Json.str (beq_iff_eq.1 same)⟩
      · split at known
        · next same => exact ⟨.system, congrArg Json.str (beq_iff_eq.1 same)⟩
        · cases known
    | _ => cases known
  · rintro ⟨t, rfl⟩
    cases t <;> exact ⟨_, rfl⟩

/-- A draft is made of fields that pass the tests one after the other. -/
theorem Draft.exists_ofPayload_iff_tests {fs : Fields} :
    (∃ d, Draft.ofPayload (.obj fs) = .ok d) ↔
      (neededFields.filter fun f => isBlankValue (fs.get f)) = [] ∧
      (∃ t, LogType.ofJson? ((fs.get "logType").orElse (.str "application")) = some t) ∧
      (∃ details, (fs.get "details").orElse (.obj []) = .obj details) ∧
      ∃ items, (fs.get "stackTrace").orElse (.arr []) = .arr items := by
  rw [ofPayload]
  cases neededFields.filter fun f => isBlankValue (fs.get f) with
  | cons f rest => simp
  | nil =>
    cases LogType.ofJson? ((fs.get "logType").orElse (.str "application")) with
    | none => simp
    | some t =>
      cases (fs.get "details").orElse (.obj []) with
      | obj details => cases (fs.get "stackTrace").orElse (.arr []) <;> simp
      | _ => simp

/-- A draft is made of complete fields. -/
theorem Draft.exists_ofPayload_iff {fs : Fields} :
    (∃ d, Draft.ofPayload (.obj fs) = .ok d) ↔ fs.Complete := by
  have needed : (neededFields.filter fun f => isBlankValue (fs.get f)) = [] ↔
      ∀ name ∈ neededFields, fs.get name ≠ .null ∧ fs.get name ≠ .str "" := by
    simp [List.filter_eq_nil_iff, isBlankValue]
  have logType := Json.exists_orElse_iff (v := fs.get "logType")
    (fun t : LogType => .str t.name) .application
  have details := Json.exists_orElse_iff (v := fs.get "details") .obj []
  have stackTrace := Json.exists_orElse_iff (v := fs.get "stackTrace") .arr []
  rw [Fields.complete_iff, exists_ofPayload_iff_tests, needed, LogType.exists_ofJson?_iff, ← logType,
    ← details, ← stackTrace]
  rfl

/-- A value is a payload: an object with complete fields and a time stamp that can be read. -/
def Json.IsPayload (v : Json) : Prop :=
  ∃ fs : Fields, v = .obj fs ∧ fs.Complete ∧ (fs.get "timestampMS").IsTime

/-- A value would be a payload if its time stamp were not infinite. -/
def Json.IsEndless (v : Json) : Prop :=
  ∃ fs : Fields, v = .obj fs ∧ fs.Complete ∧
    ∃ negative, fs.get "timestampMS" = .float (.infinite negative)

namespace LogEntry

/-- A value that is no draft is no payload, even if infinite time stamps could be read. -/
theorem refused_of_draft {payload : Json} {p : Problem} (refused : Draft.ofPayload payload = .error p) :
    ¬payload.IsPayload ∧ ¬payload.IsEndless := by
  have incomplete : ¬∃ fs : Fields, payload = .obj fs ∧ fs.Complete := by
    rintro ⟨fs, rfl, complete⟩
    obtain ⟨d, drafted⟩ := Draft.exists_ofPayload_iff.2 complete
    rw [refused] at drafted
    cases drafted
  exact ⟨fun ⟨fs, same, complete, _⟩ => incomplete ⟨fs, same, complete⟩,
    fun ⟨fs, same, complete, _⟩ => incomplete ⟨fs, same, complete⟩⟩

/-- A value is read as a record, or reported as a problem of the input, or it has an infinite time
stamp. -/
theorem ofPayload_cases (payload : Json) (id createdAt : String) :
    (payload.IsPayload ∧ ∃ r, ofPayload payload id createdAt = .ok r) ∨
      ((¬payload.IsPayload ∧ ¬payload.IsEndless) ∧
        ∃ p, ofPayload payload id createdAt = .error (.problem p) ∧ p.category = .input) ∨
      payload.IsEndless ∧ ofPayload payload id createdAt = .error .outOfRange := by
  rw [ofPayload]
  cases drafted : Draft.ofPayload payload with
  | error p =>
    exact .inr (.inl ⟨refused_of_draft drafted, p, rfl, Draft.category_of_ofPayload drafted⟩)
  | ok d =>
    -- the tests are passed, so the time stamp decides
    obtain rfl := Draft.payload_of_ofPayload drafted
    have complete := Draft.exists_ofPayload_iff.1 ⟨d, drafted⟩
    dsimp only [Draft.record]
    rcases readTimestamp_cases (d.payload.get "timestampMS") with
      ⟨n, read⟩ | rejected | ⟨infinite, failed⟩
    · rw [read]
      exact .inl ⟨⟨d.payload, rfl, complete, readTimestamp_ok_iff.1 ⟨n, read⟩⟩, _, rfl⟩
    · rw [rejected]
      refine .inr (.inl ⟨⟨?_, ?_⟩, .badTimestamp, rfl, rfl⟩)
      · rintro ⟨fs, same, -, time⟩
        obtain rfl := Json.obj.inj same
        obtain ⟨n, read⟩ := readTimestamp_ok_iff.2 time
        rw [rejected] at read
        cases read
      · rintro ⟨fs, same, -, negative, infinite⟩
        obtain rfl := Json.obj.inj same
        rw [infinite] at rejected
        cases rejected
    · rw [failed]
      exact .inr (.inr ⟨⟨d.payload, rfl, complete, infinite⟩, rfl⟩)

/-- A value with an infinite time stamp is no payload. -/
theorem not_isPayload_of_isEndless {v : Json} (endless : v.IsEndless) : ¬v.IsPayload := by
  obtain ⟨fs, rfl, -, negative, infinite⟩ := endless
  rintro ⟨fs', same, -, time⟩
  obtain rfl := Json.obj.inj same
  rw [infinite] at time
  cases time

/-- Just the payloads are read as records. All other values are reported as problems of the input, but
for those whose only fault is an infinite time stamp, which is a number out of range. -/
theorem ofPayload_outcome (payload : Json) (id createdAt : String) :
    ((∃ r, ofPayload payload id createdAt = .ok r) ↔ payload.IsPayload) ∧
      ((∃ p, ofPayload payload id createdAt = .error (.problem p) ∧ p.category = .input) ↔
        ¬payload.IsPayload ∧ ¬payload.IsEndless) ∧
      (ofPayload payload id createdAt = .error .outOfRange ↔ payload.IsEndless) := by
  have apart := not_isPayload_of_isEndless (v := payload)
  rcases ofPayload_cases payload id createdAt with
    ⟨valid, r, read⟩ | ⟨⟨invalid, ends⟩, p, rejected, category⟩ | ⟨endless, failed⟩
  · have ends : ¬payload.IsEndless := fun endless => apart endless valid
    simp [read, valid, ends]
  · simp [rejected, category, invalid, ends]
  · simp [failed, endless, apart endless]

/-- A log as it is sent, with a time stamp. -/
def sentAt (time : Json) : Json :=
  .obj [("level", .str "ERROR"), ("environment", .str "production"), ("projectId", .str "shop"),
    ("message", .str "Gateway timeout"), ("timestampMS", time)]

/-- An infinite time stamp is reported as no problem of the input, though the value is no payload. -/
theorem infiniteTime_unexplained :
    ¬(sentAt (.float (.infinite false))).IsPayload ∧
      ofPayload (sentAt (.float (.infinite false))) "log-1" "2024-03-31T12:00:00" =
        .error .outOfRange ∧
      ¬∃ p, ofPayload (sentAt (.float (.infinite false))) "log-1" "2024-03-31T12:00:00" =
        .error (.problem p) := by
  have failed : ofPayload (sentAt (.float (.infinite false))) "log-1" "2024-03-31T12:00:00" =
      .error .outOfRange := rfl
  refine ⟨?_, failed, ?_⟩
  · rintro ⟨fs, same, -, time⟩
    obtain rfl := Json.obj.inj same
    cases time
  · rintro ⟨p, explained⟩
    rw [failed] at explained
    cases explained

end LogEntry

end Logbook

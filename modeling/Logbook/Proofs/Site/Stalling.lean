import Logbook.Proofs.Log.Intake
import Logbook.Proofs.Site.Handling
import Logbook.Proofs.Site.History

/-!
# Messages that stay for good

A message is settled if it is acknowledged and its log has been stored or counted as dropped. With a
healthy stream it depends on the payload alone whether handling settles a message: it does unless
the payload stalls (`Site.Stalls`), that is, unless it passes its tests and then has a time stamp
that is infinite, or a text that cannot be written, or names a project that there is and holds a
value that a column refuses or is too narrow for. Such a payload fails for no reason that is reported
as a problem, so it counts as one that may succeed later; and it stalls again then
(`Site.settles_iff`).
-/

namespace Logbook

/-- A project that there is not is reported as a problem. -/
theorem Primary.isFinal_of_project {db : Primary} {slug : String} {f : Fault}
    (unknown : db.project slug = .error f) : f.isFinal := by
  unfold project at unknown
  split at unknown
  · cases unknown
  · cases unknown
    rfl

/-- A column refuses a value or what stands in its place if it counts as given and is refused. -/
theorem Json.isRefused_orElse (v : Json) (s : String) :
    (v.orElse (.str s)).isRefused = (v.truthy && v.isRefused) := by
  unfold orElse
  cases v.truthy <;> rfl

namespace Site

variable {s : Site} {fs : LoadedFields}

/-- A column refuses its part of a payload whose time stamp stands for a number. -/
def IsRefused (payload : Fields) (n : Int) : Prop :=
  Word.holds n = false ∨ (payload.get "hostname").isRefused ∨
    (payload.get "rawStackTrace").isRefused ∨
    (payload.get "detailString").truthy ∧ (payload.get "detailString").isRefused

/-- Some text that a record keeps of a payload in a project is longer than its column is wide. -/
def IsOverlong (payload : Fields) (project : Project) : Prop :=
  100 < (payload.get "projectId").display.length ∨ 32 < project.id.length ∨
    20 < (payload.get "level").display.length ∨ 50 < (payload.get "environment").display.length ∨
    ∃ host, Column.text (payload.get "hostname") = .ok (.str host) ∧ 255 < host.length

/-- The log of a payload cannot be stored, though the payload passes its tests: its time stamp is
infinite, or the name of its project cannot be written, or there is this project and some text cannot
be written, or a column refuses a value or is too narrow for one. -/
structure Stalls (s : Site) (fs : LoadedFields) : Prop where
  passes : ∃ d, Draft.ofPayload (.obj fs.payload) = .ok d
  unstorable : (∃ negative, fs.payload.get "timestampMS" = .float (.infinite negative)) ∨
    ∃ n, readTimestamp (fs.payload.get "timestampMS") = .ok n ∧ (fs.isTorn "projectId" ∨
      ∃ project, s.primary.project (fs.payload.get "projectId").display = .ok project ∧
        (fs.isUnwritable ∨ IsRefused fs.payload n ∨
          s.primary.holdsWidths ∧ IsOverlong fs.payload project))

/-- A draft whose time is read stalls if a text of it cannot be written, or its project is there and
the columns do not take its record. -/
theorem stalls_iff_of_record {d : Draft} (drafted : Draft.ofPayload (.obj fs.payload) = .ok d)
    {id createdAt : String} {r : LogEntry} (recorded : d.record id createdAt = .ok r) :
    s.Stalls fs ↔ fs.isTorn "projectId" ∨ ∃ project,
      s.primary.project r.projectId = .ok project ∧ (fs.isUnwritable ∨ r.isRefused ∨
        s.primary.holdsWidths ∧
          ({ r with projectObjectId := project.id } : LogEntry).IsOverlong) := by
  have same : fs.payload = d.payload := Json.obj.inj (Draft.payload_of_ofPayload drafted)
  unfold Draft.record at recorded
  cases time : readTimestamp (d.payload.get "timestampMS") with
  | error f =>
    rw [time] at recorded
    cases recorded
  | ok n =>
    rw [time] at recorded
    cases recorded
    have refused : IsRefused d.payload n ↔ (d.payload.get "hostname").isRefused ∨
        (d.payload.get "rawStackTrace").isRefused ∨
        ((d.payload.get "detailString").truthy ∧ (d.payload.get "detailString").isRefused) ∨
        Word.holds n = false := by
      unfold IsRefused
      tauto
    simp only [LogEntry.isRefused, Json.isRefused_orElse, Bool.or_eq_true, Bool.and_eq_true,
      Bool.not_eq_true', or_assoc, ← refused]
    constructor
    · rintro ⟨-, ⟨negative, infinite⟩ | ⟨n', read, beyond⟩⟩
      · rw [← same, infinite] at time
        cases time
      · rw [same, time] at read
        cases read
        rw [same] at beyond
        exact beyond
    · intro beyond
      exact ⟨⟨d, drafted⟩, .inr ⟨n, same ▸ time, same.symm ▸ beyond⟩⟩

/-- A draft whose time is not read stalls if the time is infinite. -/
theorem stalls_cases_of_record {d : Draft} (drafted : Draft.ofPayload (.obj fs.payload) = .ok d)
    {id createdAt : String} {f : Fault} (failed : d.record id createdAt = .error f) :
    (s.Stalls fs ∧ f.isFinal = false) ∨ ¬s.Stalls fs ∧ f.isFinal = true := by
  have same : d.payload = fs.payload := (Json.obj.inj (Draft.payload_of_ofPayload drafted)).symm
  unfold Draft.record at failed
  rw [same] at failed
  rcases readTimestamp_cases (fs.payload.get "timestampMS") with
    ⟨n, time⟩ | time | ⟨⟨negative, infinite⟩, time⟩ <;> rw [time] at failed <;> cases failed
  · refine .inr ⟨?_, rfl⟩
    rintro ⟨-, ⟨negative, infinite⟩ | ⟨n, read, -⟩⟩
    · rw [infinite] at time
      cases time
    · rw [read] at time
      cases time
  · exact .inl ⟨⟨⟨d, drafted⟩, .inl ⟨negative, infinite⟩⟩, rfl⟩

/-- A payload stalls if its log is not stored, for no reason that is reported as a problem. -/
theorem fst_ingestQueued_cases (fresh : s.nextId ∉ s.primary.records.map (·.id))
    (fs : LoadedFields) :
    (s.Stalls fs ∧ ∃ f, (ingestQueued fs s).1 = .error f ∧ f.isFinal = false) ∨
      ¬s.Stalls fs ∧ ((∃ f, (ingestQueued fs s).1 = .error f ∧ f.isFinal = true) ∨
        (ingestQueued fs s).1 = .ok ()) := by
  rw [ingestQueued_apply, prepare_apply]
  cases drafted : Draft.ofPayload (.obj fs.payload) with
  | error p =>
    have category := Draft.category_of_ofPayload drafted
    refine .inr ⟨?_, .inl ⟨.problem p, rfl, Fault.isFinal_iff.2 ⟨p, rfl, .inl category⟩⟩⟩
    rintro ⟨⟨d, passes⟩, -⟩
    rw [drafted] at passes
    cases passes
  | ok d =>
    dsimp only
    cases recorded : d.record s.nextId s.nowText with
    | error f =>
      rcases stalls_cases_of_record (s := s) drafted recorded with ⟨stalls, open'⟩ | ⟨moves, final⟩
      · exact .inl ⟨stalls, f, rfl, open'⟩
      · exact .inr ⟨moves, .inl ⟨f, rfl, final⟩⟩
    | ok r =>
      have named : r.id = s.nextId := Draft.id_of_record recorded
      dsimp only
      rw [stalls_iff_of_record drafted recorded]
      cases fs.isTorn "projectId" with
      | true => exact .inl ⟨.inl rfl, .torn, rfl, rfl⟩
      | false =>
        cases known : s.primary.project r.projectId with
        | error f =>
          refine .inr ⟨?_, .inl ⟨f, rfl, Primary.isFinal_of_project known⟩⟩
          rintro (torn | ⟨project, there, -⟩)
          · cases torn
          · cases there
        | ok project =>
          cases fs.isUnwritable with
          | true => exact .inl ⟨.inr ⟨project, rfl, .inl rfl⟩, .torn, rfl, rfl⟩
          | false =>
            simp only [Bool.false_eq_true, if_false, Act.bind_apply, insert_apply, known]
            rcases Primary.insert_cases (r := { r with projectObjectId := project.id })
              (named ▸ fresh) with ⟨taken, db, stored⟩ | ⟨refused, f, failed, unexplained⟩
            · rw [stored]
              dsimp only
              rw [follow_apply]
              refine .inr ⟨?_, .inr rfl⟩
              rintro (torn | ⟨project', there, torn | refused⟩)
              · cases torn
              · cases torn
              · cases there
                exact taken refused
            · rw [failed]
              refine .inl ⟨.inr ⟨project, rfl, .inr refused⟩, f, rfl, ?_⟩
              cases f with
              | problem p => exact absurd rfl (unexplained p)
              | _ => rfl

/-- Handling a message settles it: it is acknowledged, and its log has been stored, or it has been
counted as dropped. -/
structure Settles (s : Site) (m : Message) : Prop where
  acknowledged : m.id ∉ (handle m s).2.stream.held.map (·.id)
  counted : (∃ fs row, m.data = some fs ∧ row.IsRecordOf fs.payload ∧
      (handle m s).2.primary.records = s.primary.records ++ [row]) ∨
    (handle m s).2.primary = s.primary ∧ (handle m s).2.stats.dropped = s.stats.dropped + 1

/-- What is concluded for good is not held any longer. -/
theorem notMem_held_conclude {s : Site} (steady : s.stream.fault? .acknowledge = none) (id : String)
    {v : Verdict} (final : ∀ f, v ≠ .failed f) :
    id ∉ (s.conclude id v).stream.held.map (·.id) := by
  rw [held_conclude_of_none id v s steady final]
  intro mem
  obtain ⟨e, inside, same⟩ := List.mem_map.1 mem
  exact of_decide_eq_true (List.mem_filter.1 inside).2 same

/-- A message without data is dropped. -/
theorem settles_of_none {m : Message} (data : m.data = none)
    (steady : s.stream.fault? .acknowledge = none) : s.Settles m := by
  have left : (handle m s).2 = s.conclude m.id .unreadable := by
    rw [handle, handleBy_eq, data]
  refine ⟨?_, .inr ⟨?_, ?_⟩⟩
  · rw [left]
    exact notMem_held_conclude steady m.id nofun
  · rw [left, primary_conclude]
  · rw [left, (stats_conclude m.id .unreadable s).2]
    rfl

/-- A message whose payload does not stall is stored or dropped. -/
theorem settles_of_not_stalls {m : Message} (data : m.data = some fs)
    (steady : s.stream.fault? .acknowledge = none)
    (fresh : s.nextId ∉ s.primary.records.map (·.id)) (moves : ¬s.Stalls fs) :
    s.Settles m := by
  have left : (handle m s).2 = (ingestQueued fs s).2.conclude m.id
      (.of (ingestQueued fs s).1) := by rw [handle, handleBy_eq, data]
  rcases ingestQueued_cases fs s with ⟨f, drawn, ran⟩ | ⟨row, drawn, index, desk, record, -, ran⟩
  · have final : f.isFinal = true := by
      rcases fst_ingestQueued_cases fresh fs with
        ⟨stalls, -⟩ | ⟨-, ⟨f', failed, final⟩ | accepted⟩
      · exact absurd stalls moves
      · rw [ran] at failed
        cases failed
        exact final
      · rw [ran] at accepted
        cases accepted
    rw [ran, Verdict.of] at left
    dsimp only at left
    rw [if_pos final] at left
    refine ⟨?_, .inr ⟨?_, ?_⟩⟩
    · rw [left]
      refine notMem_held_conclude ?_ m.id ?_
      · exact steady
      · intro f failed
        cases failed
    · rw [left, primary_conclude]
    · rw [left, (stats_conclude _ _ _).2]
      rfl
  · rw [ran] at left
    dsimp only [Verdict.of] at left
    refine ⟨?_, .inl ⟨fs, row, data, record, ?_⟩⟩
    · rw [left]
      refine notMem_held_conclude ?_ m.id ?_
      · exact steady
      · intro f failed
        cases failed
    · rw [left, primary_conclude]

/-- A message whose payload stalls is left as it is, and its payload stalls again. -/
theorem handle_of_stalls {m : Message} (data : m.data = some fs)
    (fresh : s.nextId ∉ s.primary.records.map (·.id)) (stalls : s.Stalls fs) :
    (handle m s).2.stream = s.stream ∧ (handle m s).2.primary = s.primary ∧
      (handle m s).2.Stalls fs := by
  have left : (handle m s).2 = (ingestQueued fs s).2.conclude m.id
      (.of (ingestQueued fs s).1) := by rw [handle, handleBy_eq, data]
  rcases fst_ingestQueued_cases fresh fs with ⟨-, f, failed, open'⟩ | ⟨moves, -⟩
  · rcases ingestQueued_cases fs s with ⟨f', drawn, ran⟩ | ⟨row, drawn, index, desk, -, -, ran⟩
    · rw [ran] at failed
      cases failed
      rw [ran, Verdict.of] at left
      dsimp only at left
      rw [if_neg (by rw [open']; decide)] at left
      rw [left]
      exact ⟨rfl, rfl, stalls.passes, stalls.unstorable⟩
    · rw [ran] at failed
      cases failed
  · exact absurd stalls moves

/-- With a stream that lets it be acknowledged, an entry that is held is settled by the handling of
its message, exactly if it has no payload that stalls. An entry whose payload stalls is held on, and
stalls again whenever it is delivered. -/
theorem settles_iff {e : StreamEntry} {m : Message} (decoded : Stream.decode e = .ok m)
    (held : e ∈ s.stream.held) (steady : s.stream.fault? .acknowledge = none)
    (fresh : s.nextId ∉ s.primary.records.map (·.id)) :
    (s.Settles m ↔ ∀ fs, m.data = some fs → ¬s.Stalls fs) ∧
      ∀ fs, m.data = some fs → s.Stalls fs →
        e ∈ (handle m s).2.stream.held ∧ (handle m s).2.Stalls fs := by
  have named : m.id = e.id := Stream.Decodes.id decoded
  have stays : ∀ fs, m.data = some fs → s.Stalls fs →
      e ∈ (handle m s).2.stream.held ∧ (handle m s).2.Stalls fs := by
    intro fs data stalls
    obtain ⟨stream, -, again⟩ := handle_of_stalls data fresh stalls
    exact ⟨stream ▸ held, again⟩
  refine ⟨⟨fun settles fs data stalls => ?_, fun moves => ?_⟩, stays⟩
  · refine settles.acknowledged ?_
    rw [named]
    exact List.mem_map_of_mem (stays fs data stalls).1
  · cases data : m.data with
    | none => exact settles_of_none data steady
    | some fs => exact settles_of_not_stalls data steady fresh (moves fs data)

/-- The data text of a log in the shop, up to its last field. -/
def shortLog (last : String) : String :=
  "\x7b\"level\":\"E\",\"environment\":\"p\",\"projectId\":\"shop\",\"message\":\"m\"," ++ last ++ "\x7d"

/-- The shop with one entry that has been delivered. -/
def deliveredShop (text : String) : Site :=
  { shopSite with
    desk := { cache := {} }
    stream := {
      delivered := [⟨"1-0", [("data", .str text)]⟩]
      pending := [⟨⟨"1-0", [("data", .str text)]⟩, 1711886400000⟩]
      appended := 1 } }

/-- The message of the entry, whose payload ends with some fields. -/
def shortMessage (last : List (String × Loaded)) : Message where
  id := "1-0"
  data := some (Loaded.ofFields [("level", .str "E"), ("environment", .str "p"),
    ("projectId", .str "shop"), ("message", .str "m")] ++
      last.map fun (k, v) => (Loaded.ofText k, v))

theorem settles_iff_shortLog :
    (deliveredShop (shortLog "\"timestampMS\":1")).Settles
      (shortMessage [("timestampMS", .int 1)]) := by
  refine (settles_iff (e := ⟨"1-0", [("data", .str (shortLog "\"timestampMS\":1"))]⟩)
    (by decide +kernel) (by decide) rfl (by decide)).1.2 ?_
  rintro fs data ⟨-, ⟨negative, infinite⟩ |
    ⟨n, time, torn | ⟨project, -, torn | refused | ⟨wide, -⟩⟩⟩⟩
  · cases data
    cases infinite
  · cases data
    revert torn
    decide +kernel
  · cases data
    revert torn
    decide +kernel
  · cases data
    cases time
    revert refused
    unfold IsRefused
    decide +kernel
  · cases wide

/-- A number that is read as an infinity, a host name that is a list, or one with half of a pair, is
no problem that is reported, and keeps an entry for good. -/
theorem not_settles_infiniteTime :
    (Stream.decode ⟨"1-0", [("data", .str (shortLog "\"timestampMS\":1e999"))]⟩ =
        .ok (shortMessage [("timestampMS", .float (.infinite false))]) ∧
      ¬(deliveredShop (shortLog "\"timestampMS\":1e999")).Settles
        (shortMessage [("timestampMS", .float (.infinite false))])) ∧
    (Stream.decode ⟨"1-0", [("data", .str (shortLog "\"timestampMS\":1,\"hostname\":[]"))]⟩ =
        .ok (shortMessage [("timestampMS", .int 1), ("hostname", .arr [])]) ∧
      ¬(deliveredShop (shortLog "\"timestampMS\":1,\"hostname\":[]")).Settles
        (shortMessage [("timestampMS", .int 1), ("hostname", .arr [])])) ∧
    Stream.decode ⟨"1-0", [("data", .str (shortLog "\"timestampMS\":1,\"hostname\":\"\\ud800\""))]⟩ =
        .ok (shortMessage [("timestampMS", .int 1), ("hostname", .str [.half 0])]) ∧
      ¬(deliveredShop (shortLog "\"timestampMS\":1,\"hostname\":\"\\ud800\"")).Settles
        (shortMessage [("timestampMS", .int 1), ("hostname", .str [.half 0])]) := by
  refine ⟨⟨by decide +kernel, fun settles => settles.acknowledged ?_⟩,
    ⟨by decide +kernel, fun settles => settles.acknowledged ?_⟩,
    by decide +kernel, fun settles => settles.acknowledged ?_⟩
  · decide +kernel
  · decide +kernel
  · decide +kernel

end Site

end Logbook

import Logbook.Proofs.Site.Searches
import Mathlib.Data.List.Induction

/-!
# Searches after any history

A history is a list of calls that store and delete logs, each run on the site that the calls before
it have left. From empty stores every history leads to stores in step, which hold just the logs
that are in force: those that a call has stored and no later deletion has removed
(`Site.exists_holds`). So after any history both ways to answer a search list the same logs
(`Site.searches_agree`).
-/

namespace Logbook

/-- A call that stores a log, at a time in microseconds, or deletes logs. -/
inductive StoreCall where
  | ingest (now : Int) (payload : Json)
  | delete (d : Doomed)

/-- No batch and no page has a size below zero. -/
structure Settings.Paged (c : Settings) : Prop where
  batches : 0 ≤ c.deleteBatchSize
  deletion : 0 ≤ c.collectPageSize
  scan : 0 ≤ c.searchScanPageSize

namespace Site

/-- There are no logs yet, and the index is in use and healthy. -/
structure Empty (s : Site) : Prop where
  records : s.primary.records = []
  documents : s.index.documents = []
  healthy : s.index.Healthy

/-- The site after a call. -/
def next (s : Site) : StoreCall → Site
  | .ingest now payload => (ingest payload { s with now := now }).2
  | .delete d => (deleteDoomed d s).2

/-- The site after a history. -/
def after (s : Site) (calls : List StoreCall) : Site :=
  calls.foldl next s

/-- A call stores a log: the payload is accepted as this log. -/
def Stores (s : Site) (r : LogEntry) : StoreCall → Prop
  | .ingest now payload => (ingest payload { s with now := now }).1 = .ok r
  | .delete _ => False

/-- A call removes a log: it is a deletion that succeeds and names the log. -/
def Removes (s : Site) (r : LogEntry) : StoreCall → Prop
  | .ingest _ _ => False
  | .delete d => (∃ n, (deleteDoomed d s).1 = .ok n) ∧ d.selection.Matches r

/-- A log is in force after a history: the last call stored it, or it was in force before the last
call and that did not remove it. -/
inductive InForce (s : Site) : List StoreCall → LogEntry → Prop where
  | stored {calls : List StoreCall} {c : StoreCall} {r : LogEntry} :
    (s.after calls).Stores r c → InForce s (calls ++ [c]) r
  | remains {calls : List StoreCall} {c : StoreCall} {r : LogEntry} :
    InForce s calls r → ¬(s.after calls).Removes r c → InForce s (calls ++ [c]) r

section History

variable {s : Site} {calls : List StoreCall} {r : LogEntry}

theorem after_concat (s : Site) (calls : List StoreCall) (c : StoreCall) :
    s.after (calls ++ [c]) = (s.after calls).next c := by
  simp [after]

theorem not_inForce_nil : ¬s.InForce [] r := by
  intro h
  generalize start : ([] : List StoreCall) = calls at h
  cases h <;> simp at start

/-- What is in force after one more call. -/
theorem inForce_concat {c : StoreCall} : s.InForce (calls ++ [c]) r ↔
    (s.after calls).Stores r c ∨ s.InForce calls r ∧ ¬(s.after calls).Removes r c := by
  constructor
  · intro h
    generalize whole : calls ++ [c] = calls' at h
    cases h with
    | stored stored =>
      obtain ⟨rfl, last⟩ := List.append_inj' whole rfl
      cases last
      exact .inl stored
    | remains before kept =>
      obtain ⟨rfl, last⟩ := List.append_inj' whole rfl
      cases last
      exact .inr ⟨before, kept⟩
  · rintro (stored | ⟨before, kept⟩)
    · exact .stored stored
    · exact .remains before kept

end History

/-- The time plays no part in what the stores hold. -/
theorem Holds.at {s : Site} {logs : List LogEntry} (h : s.Holds logs) (now : Int) :
    ({ s with now := now } : Site).Holds logs :=
  ⟨h.records, h.index, h.distinct, h.drawn⟩

/-- One call keeps the stores in step, with the logs that it stores and without those that it
removes. -/
theorem Holds.next {s : Site} {logs : List LogEntry} (h : s.Holds logs)
    (batches : 0 ≤ s.settings.deleteBatchSize) (pages : 0 ≤ s.settings.collectPageSize)
    {c : StoreCall} (plain : ∀ now payload, c = .ingest now payload → PlainPayload payload) :
    ∃ logs', (s.next c).Holds logs' ∧ (s.next c).settings = s.settings ∧
      ∀ r, r ∈ logs' ↔ s.Stores r c ∨ r ∈ logs ∧ ¬s.Removes r c := by
  cases c with
  | ingest now payload =>
    rcases (h.at now).ingest (plain now payload rfl) with
      ⟨f, s', ran, held, same⟩ | ⟨r, s', ran, held, same⟩
    · refine ⟨logs, ?_, ?_, ?_⟩
      · simpa only [Site.next, ran] using held
      · simpa only [Site.next, ran] using same
      · simp [Stores, Removes, ran]
    · refine ⟨logs ++ [r], ?_, ?_, ?_⟩
      · simpa only [Site.next, ran] using held
      · simpa only [Site.next, ran] using same
      · intro x
        simp [Stores, Removes, ran, or_comm, eq_comm]
  | delete d =>
    rcases h.deleteDoomed batches pages d with
      ⟨f, ran⟩ | ⟨n, s', ran, held, same⟩
    · refine ⟨logs, ?_, ?_, ?_⟩
      · simpa only [Site.next, ran] using h
      · simp only [Site.next, ran]
      · simp [Stores, Removes, ran]
    · refine ⟨logs.filter (!d.selection.takes ·), ?_, ?_, ?_⟩
      · simpa only [Site.next, ran] using held
      · simpa only [Site.next, ran] using same
      · intro x
        simp [Stores, Removes, ran, ← Selection.takes_iff]

/-- After any history the stores are in step, and hold the logs that are in force. -/
theorem exists_holds {s : Site} (empty : s.Empty) (paged : s.settings.Paged)
    (calls : List StoreCall)
    (plain : ∀ now payload, .ingest now payload ∈ calls → PlainPayload payload) :
    ∃ logs, (s.after calls).Holds logs ∧ (s.after calls).settings = s.settings ∧
      ∀ r, r ∈ logs ↔ s.InForce calls r := by
  induction calls using List.reverseRecOn with
  | nil =>
    refine ⟨[], ⟨empty.records, ⟨empty.healthy, empty.documents⟩, List.nodup_nil, ?_⟩, rfl, ?_⟩
    · simp
    · simp [not_inForce_nil]
  | append_singleton calls c ih =>
    obtain ⟨logs, held, same, members⟩ :=
      ih fun now payload mem => plain now payload (List.mem_append_left _ mem)
    obtain ⟨logs', held', same', members'⟩ :=
      held.next (same ▸ paged.batches) (same ▸ paged.deletion) (c := c) fun now payload e =>
        plain now payload (by simp [e])
    refine ⟨logs', ?_, ?_, ?_⟩
    · rw [after_concat]
      exact held'
    · rw [after_concat, same', same]
    · intro r
      rw [members', members, inForce_concat]

/-- After any history of plain payloads and deletions, a search with a text filter is answered
alike by the index and by the primary store, if the index scans as far as there are candidates: the
pages of both list just the logs that are in force and that the search asks for, each under its
identifier, and both answer the same total. -/
theorem searches_agree {s : Site} (empty : s.Empty) (paged : s.settings.Paged)
    {calls : List StoreCall}
    (plain : ∀ now payload, .ingest now payload ∈ calls → PlainPayload payload)
    {p : SearchParams} (worded : p.textFilter?.isSome) (filled : p.Filled)
    (bounded : p.minTimestampMs.all Word.holds ∧ p.maxTimestampMs.all Word.holds)
    (sized : 1 ≤ p.pageSize)
    (few : ∀ passed,
      SearchIndex.passing p.clauses (s.after calls).index.contents = .ok passed →
        (passed.length : Int) ≤ s.settings.searchScanMaxHits) :
    ∃ ids : List String, ids.Nodup ∧
      (∀ id, id ∈ ids ↔ ∃ r, s.InForce calls r ∧ p.Finds r ∧ r.id = id) ∧
      (∀ project, (s.after calls).primary.project p.projectId = .ok project →
        Answers (fun page => (search { p with page := page } (s.after calls)).1) .index ids) ∧
      Answers (fun page => (s.after calls).primary.search { p with page := page }) .primary ids := by
  obtain ⟨logs, held, same, members⟩ := exists_holds empty paged calls plain
  obtain ⟨t, filter⟩ := Option.isSome_iff_exists.1 worded
  have checked : p.selection.check = .ok () := by
    simp [Selection.check, SearchParams.selection, bounded.1, bounded.2]
  refine ⟨((logs.filter p.selection.takes).filter t.holds).map (·.id), ?_, ?_, ?_, ?_⟩
  · exact held.distinct.sublist
      (List.Sublist.map _ (List.filter_sublist.trans List.filter_sublist))
  · intro id
    simp only [List.mem_map, List.mem_filter, p.finds_iff filter, ← members, and_assoc]
  · intro project known
    exact held.answers_index filter filled sized (same ▸ paged.scan) (same ▸ few) known
  · exact held.answers_primary filter checked sized

/-- A site of one project, without logs. -/
def shopSite : Site where
  now := 1711886400000000
  primary := { projects := [⟨"o1", "shop", "Shop", .arr []⟩] }

/-- The payload of a log in the shop. -/
def shopPayload (message : String) (timestampMs : Int) : Json :=
  .obj [("level", .str "ERROR"), ("environment", .str "production"), ("projectId", .str "shop"),
    ("message", .str message), ("timestampMS", .int timestampMs), ("hostname", .str "web-01")]

/-- Three logs are stored, and those up to a time are deleted. -/
def shopCalls : List StoreCall :=
  [.ingest 1711886400000000 (shopPayload "Gateway timeout" 5000),
    .ingest 1711886401000000 (shopPayload "Card declined" 6000),
    .ingest 1711886402000000 (shopPayload "Timeout while paying" 7000),
    .delete { projectId := "shop", bounds := ⟨none, some 5000⟩ }]

/-- A search for messages with a word, on one host. -/
def timeoutSearch : SearchParams where
  projectId := "shop"
  pageSize := 1
  hostname := some (.many ["web-01", "web-02"])
  messageFilter := some ⟨.and, [⟨"TIMEOUT", .anywhere⟩]⟩

theorem shopCalls_plain (now : Int) (payload : Json) (mem : .ingest now payload ∈ shopCalls) :
    PlainPayload payload := by
  simp only [shopCalls, List.mem_cons, StoreCall.ingest.injEq, reduceCtorEq, List.not_mem_nil,
    or_false] at mem
  rcases mem with ⟨-, rfl⟩ | ⟨-, rfl⟩ | ⟨-, rfl⟩ <;> (intro fs whole; cases whole; decide)

theorem timeoutSearch_few (passed : List Fields)
    (passes : SearchIndex.passing timeoutSearch.clauses (shopSite.after shopCalls).index.contents =
      .ok passed) : (passed.length : Int) ≤ shopSite.settings.searchScanMaxHits := by
  have two : (SearchIndex.passing timeoutSearch.clauses
      (shopSite.after shopCalls).index.contents).toOption.map List.length = some 2 := by
    decide +kernel
  rw [passes] at two
  have length : passed.length = 2 := by simpa [Except.toOption] using two
  rw [length]
  decide

/-- Only the log that came last is found, in either way: the first is deleted by then. -/
theorem searches_agree_timeoutSearch :
    ((search timeoutSearch (shopSite.after shopCalls)).1.toOption.map
          (fun r => (r.source, documentIds r.logs)) = some (.index, ["log-3"]) ∧
      ((shopSite.after shopCalls).primary.search timeoutSearch).toOption.map
          (fun r => (r.source, documentIds r.logs)) = some (.primary, ["log-3"])) ∧
    ∃ ids : List String, ids.Nodup ∧
      (∀ id, id ∈ ids ↔ ∃ r, shopSite.InForce shopCalls r ∧ timeoutSearch.Finds r ∧ r.id = id) ∧
      (∀ project,
        (shopSite.after shopCalls).primary.project timeoutSearch.projectId = .ok project →
          Answers (fun page => (search { timeoutSearch with page := page }
            (shopSite.after shopCalls)).1) .index ids) ∧
      Answers (fun page => (shopSite.after shopCalls).primary.search
        { timeoutSearch with page := page }) .primary ids := by
  refine ⟨by decide +kernel, ?_⟩
  exact searches_agree ⟨rfl, rfl, rfl, fun _ _ => rfl⟩ ⟨by decide, by decide, by decide⟩
    shopCalls_plain (by decide)
    ⟨by simp [Wanted.Filled, timeoutSearch], by simp [Wanted.Filled, timeoutSearch],
      by simp [Wanted.Filled, timeoutSearch]⟩
    ⟨by decide, by decide⟩ (by decide) timeoutSearch_few

end Site

end Logbook

import Logbook.Log.Deletion
import Logbook.Proofs.Log.Entry

/-!
# Structured clauses on documents

The clauses of a query never fail on the document of a stored log, whose time is an integer: each
wished value is compared with a field, and the bounds with the time. What they come to is
`SearchParams.indexTakes` for a search and the selection itself for a deletion.
-/

namespace Logbook

namespace Json

/-- A text is equal to a value only if the value is that text. -/
theorem equal_str (v : Json) (s : String) : v.equal (.str s) = (v == .str s) := by
  cases v with
  | str t => by_cases h : t = s <;> simp [equal, h, beq_eq_false_iff_ne.2]
  | _ => simp [equal, sameNumber, magnitude?]

/-- Is a value the wished one, or one of the wished ones? -/
def grants (wish v : Json) : Bool :=
  match wish with
  | .arr vs => vs.any v.equal
  | wish => v.equal wish

@[simp] theorem grants_str (s : String) (v : Json) : (Json.str s).grants v = (v == .str s) :=
  equal_str v s

@[simp] theorem grants_strings (ss : List String) (v : Json) :
    (Json.strings ss).grants v = ss.any fun s => v == .str s := by
  simp only [grants, strings, List.any_map]
  congr 1
  funext s
  exact equal_str v s

end Json

namespace Clause

variable {doc : Fields}

/-- Clauses that do not fail on a document are satisfied together if each list of them is. -/
theorem acceptsAll_append {cs ds : List Clause} {a b : Bool} (first : acceptsAll doc cs = .ok a)
    (second : acceptsAll doc ds = .ok b) : acceptsAll doc (cs ++ ds) = .ok (a && b) := by
  induction cs generalizing a with
  | nil =>
    cases first
    simpa using second
  | cons c r ih =>
    simp only [List.cons_append, acceptsAll] at first ⊢
    cases hc : c.accepts doc with
    | error f =>
      rw [hc] at first
      cases first
    | ok kept =>
      rw [hc] at first
      cases kept with
      | false =>
        cases first
        rfl
      | true => exact ih first

theorem accepts_equalClause (f : String) (wish : Json) :
    (IndexQuery.equalClause (f, wish)).accepts doc = .ok (wish.grants (doc.get f)) := by
  cases wish <;> rfl

/-- One clause for each field with a wish. -/
def ofWishes {β : Type} (wish : β → Option Json) (fs : List (String × β)) : List Clause :=
  (fs.filterMap fun (f, w) => (wish w).map (f, ·)).map IndexQuery.equalClause

/-- Each wish for a field is one clause, and no wish is none. -/
theorem acceptsAll_wishes {β : Type} (doc : Fields) (wish : β → Option Json)
    (fs : List (String × β)) : acceptsAll doc (ofWishes wish fs) =
      .ok (fs.all fun (f, w) => (wish w).all fun c => c.grants (doc.get f)) := by
  unfold ofWishes
  induction fs with
  | nil => rfl
  | cons p r ih =>
    obtain ⟨f, w⟩ := p
    cases hw : wish w with
    | none => simpa [hw] using ih
    | some c =>
      simp only [List.filterMap_cons, hw, Option.map_some, List.map_cons, acceptsAll,
        accepts_equalClause, List.all_cons, Option.all_some]
      cases c.grants (doc.get f)
      · rfl
      · exact ih

/-- A log's document is in the project of the log. -/
theorem acceptsAll_project (r : LogEntry) (projectId : String) :
    acceptsAll (documentOf r.toFields) [IndexQuery.equalClause ("project_id", .str projectId)] =
      .ok (r.projectId == projectId) := by
  have field : (documentOf r.toFields).get "project_id" = .str r.projectId := rfl
  simp only [acceptsAll, accepts_equalClause, Json.grants_str, field]
  by_cases h : r.projectId = projectId <;> simp [h, bind, Except.bind, pure, Except.pure]

end Clause

namespace TimeSpan

/-- Bounds on the time as a query has them. -/
def asBounds (b : TimeSpan) : List Bound :=
  (b.least.toList.map fun t => ⟨"timestamp_ms", ">=", .int t⟩) ++
    b.greatest.toList.map fun t => ⟨"timestamp_ms", "<=", .int t⟩

theorem isBelow_int (m n : Int) : (Json.int m).isBelow (.int n) = .ok (decide (m < n)) := by
  simp [Json.isBelow, Json.isNumberBelow, Json.isNumber, Json.magnitude?, Magnitude.ofInt,
    Magnitude.lt]

/-- The bounds of a span become one clause, unless there are none. -/
theorem clauses_asBounds (b : TimeSpan) :
    (IndexQuery.boundFields b.asBounds).map (IndexQuery.rangeClause b.asBounds) =
      if b.isEmpty then []
      else [.range "timestamp_ms" (b.least.map .int) (b.greatest.map .int)] := by
  obtain ⟨least | m, greatest | n⟩ := b <;> rfl

/-- A time satisfies the clause of a span if it lies in the span. -/
theorem accepts_range {doc : Fields} {f : String} {t : Int} (time : doc.get f = .int t)
    (b : TimeSpan) :
    (Clause.range f (b.least.map .int) (b.greatest.map .int)).accepts doc = .ok (b.contains t) := by
  obtain ⟨least, greatest⟩ := b
  have early : Clause.outside (fun v => (Json.int t).isBelow v) (least.map .int) =
      .ok (!least.all (· ≤ t)) := by
    cases least with
    | none => rfl
    | some lo =>
      simp only [Clause.outside, Option.map_some, isBelow_int, Option.all_some, ← Int.not_le,
        decide_not]
  have late : Clause.outside (fun v => v.isBelow (.int t)) (greatest.map .int) =
      .ok (!greatest.all (t ≤ ·)) := by
    cases greatest with
    | none => rfl
    | some hi =>
      simp only [Clause.outside, Option.map_some, isBelow_int, Option.all_some, ← Int.not_le,
        decide_not]
  simp only [Clause.accepts, time, early, late, contains]
  cases least.all (· ≤ t) <;> simp [bind, Except.bind, pure, Except.pure]

/-- A document satisfies the clauses of a span if its time lies in the span. -/
theorem acceptsAll_asBounds {doc : Fields} {t : Int} (time : doc.get "timestamp_ms" = .int t)
    (b : TimeSpan) :
    Clause.acceptsAll doc
      ((IndexQuery.boundFields b.asBounds).map (IndexQuery.rangeClause b.asBounds)) =
      .ok (b.contains t) := by
  rw [clauses_asBounds]
  split
  · next unbounded =>
    obtain ⟨least | m, greatest | n⟩ := b <;> simp [isEmpty] at unbounded
    rfl
  · simp only [Clause.acceptsAll, accepts_range time]
    cases b.contains t <;> rfl

end TimeSpan

namespace IndexQuery

/-- The field and direction that results are sorted by; none with a text query. -/
def sortPlan (q : IndexQuery) : Except Fault (Option (String × String)) :=
  match q.sortBy.filter (· ≠ ""), q.textFilter with
  | some directive, none => some <$> sortParts directive
  | _, _ => .ok none

/-- A request can be written if the sort directive can be read; only its window depends on the
page. -/
theorem body_eq (q : IndexQuery) (page perPage : Option Int) :
    q.body page perPage = q.sortPlan.map fun parts => {
      text := q.textFilter.map fun _ => ⟨q.text, q.textFields, q.allWords.getD false⟩
      clauses := q.clauses
      start := (orPage page q.page - 1) * orPage perPage q.perPage
      size := orPage perPage q.perPage
      sort := parts } := by
  unfold body sortPlan
  cases q.sortBy.filter (· ≠ "") with
  | none => rfl
  | some directive =>
    cases q.textFilter with
    | some t => rfl
    | none =>
      dsimp only
      cases sortParts directive <;> rfl

end IndexQuery

/-- A valid directive names a field and a direction. -/
theorem sortParts_of_sortDirective {given : Option String} {d : String}
    (h : sortDirective given = .ok d) : ∃ parts, IndexQuery.sortParts d = .ok parts := by
  unfold sortDirective at h
  split at h
  · cases h
    exact ⟨("timestamp_ms", "desc"), by rfl⟩
  · next e _ =>
    split at h
    · next order =>
      cases h
      unfold SortOrder.ofText? at order
      split at order
      · next field descending parts =>
        exact ⟨(String.ofList field, String.ofList descending), by rw [IndexQuery.sortParts, parts]⟩
      · cases order
    · cases h

namespace Wanted

/-- Does a field have a value that the clause of a wish grants? No clause grants all values. -/
def granted (w : Option Wanted) (v : Json) : Bool :=
  (w.bind condition?).all fun c => c.grants v

end Wanted

namespace SearchParams

/-- The structured clauses of a search. -/
def clauses (p : SearchParams) : List Clause :=
  ({ equal := p.equalities, bounds := p.timeBounds } : IndexQuery).clauses

/-- Does the document of a log satisfy the structured clauses of a search? -/
def indexTakes (p : SearchParams) (r : LogEntry) : Bool :=
  r.projectId == p.projectId && Wanted.granted p.level (.str r.level) &&
    Wanted.granted p.environment (.str r.environment) && Wanted.granted p.hostname r.hostname &&
    Wanted.granted (p.logType.map .one) (.str r.logType.name) &&
    p.selection.bounds.contains r.timestampMs

/-- The clauses of a search have a verdict on the document of every stored log. -/
theorem acceptsAll_clauses (p : SearchParams) (r : LogEntry) :
    Clause.acceptsAll (documentOf r.toFields) p.clauses = .ok (p.indexTakes r) := by
  have wishes := Clause.acceptsAll_wishes (documentOf r.toFields)
    (fun w : Option Wanted => w.bind Wanted.condition?)
    [("level", p.level), ("environment", p.environment), ("hostname", p.hostname),
      ("log_type", p.logType.map .one)]
  have time : (documentOf r.toFields).get "timestamp_ms" = .int r.timestampMs := rfl
  have times := TimeSpan.acceptsAll_asBounds time p.selection.bounds
  have all := Clause.acceptsAll_append (Clause.acceptsAll_project r p.projectId)
    (Clause.acceptsAll_append wishes times)
  have split : p.clauses = [IndexQuery.equalClause ("project_id", .str p.projectId)] ++
      (Clause.ofWishes (fun w : Option Wanted => w.bind Wanted.condition?)
        [("level", p.level), ("environment", p.environment), ("hostname", p.hostname),
          ("log_type", p.logType.map .one)] ++
      (IndexQuery.boundFields p.selection.bounds.asBounds).map
        (IndexQuery.rangeClause p.selection.bounds.asBounds)) := rfl
  rw [split, all]
  simp [indexTakes, Wanted.granted, Bool.and_assoc]
  rfl

/-- What the query of a search is made of: its clauses, its filter and its page size are those of
the search, and it can be sorted as it asks for. -/
theorem query_parts {p : SearchParams} {q : IndexQuery} (hq : p.query = .ok q) :
    q.clauses = p.clauses ∧ q.textFilter = p.textFilter? ∧ q.perPage = p.pageSize ∧
      ∃ parts, q.sortPlan = .ok parts := by
  unfold query at hq
  split at hq
  · next noFilter =>
    cases directive : sortDirective p.sortBy with
    | error f =>
      rw [directive] at hq
      cases hq
    | ok d =>
      rw [directive] at hq
      cases hq
      refine ⟨rfl, noFilter.symm, rfl, ?_⟩
      obtain ⟨parts, named⟩ := sortParts_of_sortDirective directive
      unfold IndexQuery.sortPlan
      by_cases blank : d = ""
      · exact ⟨none, by simp [blank]⟩
      · have given : (some d).filter (· ≠ "") = some d := by simp [blank]
        exact ⟨some parts, by simp only [given, named]; rfl⟩
  · next t filter =>
    cases hq
    exact ⟨rfl, filter.symm, rfl, none, rfl⟩

/-- Whatever page a search asks for, the index gets a request with the clauses of the search. -/
theorem exists_body {p : SearchParams} {q : IndexQuery} (hq : p.query = .ok q)
    (page perPage : Option Int) :
    ∃ body, q.body page perPage = .ok body ∧ body.clauses = p.clauses := by
  obtain ⟨clauses, -, -, parts, plan⟩ := query_parts hq
  rw [q.body_eq, plan]
  exact ⟨_, rfl, clauses⟩

end SearchParams

namespace Doomed

/-- A wish that is given is granted where the column satisfies it. -/
theorem all_grants_queryValue (w : Option Wanted) (v : Json) :
    ((w.filter Wanted.isGiven).map Wanted.queryValue).all (fun c => c.grants v) =
      Wanted.admits w v := by
  unfold Wanted.admits
  cases w.filter Wanted.isGiven with
  | none => rfl
  | some w => cases w <;> simp [Wanted.queryValue, Wanted.takes]

/-- The clauses of a deletion have a verdict on the document of every stored log: the one that the
selection has on the log. -/
theorem acceptsAll_clauses (d : Doomed) (r : LogEntry) :
    Clause.acceptsAll (documentOf r.toFields) d.query.clauses = .ok (d.selection.takes r) := by
  have wishes := Clause.acceptsAll_wishes (documentOf r.toFields)
    (fun w : Option Wanted => (w.filter Wanted.isGiven).map Wanted.queryValue)
    [("level", d.level), ("environment", d.environment)]
  have time : (documentOf r.toFields).get "timestamp_ms" = .int r.timestampMs := rfl
  have times := TimeSpan.acceptsAll_asBounds time d.bounds
  have all := Clause.acceptsAll_append (Clause.acceptsAll_project r d.projectId)
    (Clause.acceptsAll_append wishes times)
  have split : d.query.clauses = [IndexQuery.equalClause ("project_id", .str d.projectId)] ++
      (Clause.ofWishes (fun w : Option Wanted => (w.filter Wanted.isGiven).map Wanted.queryValue)
        [("level", d.level), ("environment", d.environment)] ++
      (IndexQuery.boundFields d.bounds.asBounds).map (IndexQuery.rangeClause d.bounds.asBounds)) := by
    simp [query, IndexQuery.clauses, Clause.ofWishes, TimeSpan.asBounds, Option.map_map,
      Function.comp_def]
  rw [split, all]
  simp only [List.all_cons, List.all_nil, all_grants_queryValue, Bool.and_true]
  simp [Selection.takes, selection, Wanted.admits, Bool.and_assoc]
  rfl

end Doomed

end Logbook

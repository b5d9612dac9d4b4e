import Logbook.Proofs.Site.Paging

/-!
# Pages of a structured search from either store

A search without a text filter is sorted. The index sorts the documents that satisfy the clauses,
the primary store the records that it selects, which it has found with the newest first. Where both
stores hold the same logs, what stands on a page may differ only where logs have equal values in the
field that is sorted by (`structured_pages_agree`).
-/

namespace Logbook

/-- The order in which a search is answered: the one it asks for, or the newest first. -/
def SearchParams.order? (p : SearchParams) : Option SortOrder :=
  SortOrder.ofText? ((p.sortBy.filter (· ≠ "")).getD newestFirst)

/-- A document is that of a record: it was made of a log of which the record has the columns. The
fields that are kept as they were sent may have another form there. -/
def LogEntry.DocumentedBy (row : LogEntry) (doc : Fields) : Prop :=
  ∃ r : LogEntry, doc = documentOf r.toFields ∧ row = { r with
    hostname := row.hostname
    rawStackTrace := row.rawStackTrace
    detailString := row.detailString
    request := row.request }

/-- There is one document for each record and no other, in any order. -/
def OneToOne (R : LogEntry → Fields → Prop) (records : List LogEntry) (contents : List Fields) :
    Prop :=
  ∃ docs, docs.Perm contents ∧ List.Forall₂ R records docs

/-- The documents mirror the records, in any order. -/
def HoldAlike : List LogEntry → List Fields → Prop :=
  OneToOne fun r doc => r.MirroredBy (r.id, doc)

/-- From a state an index answers requests for some clauses in an order: it filters its documents by
the clauses, arranges them so that none stands before one whose value comes first, and cuts out the
window that is asked for. -/
def AnswersInOrder {σ : Type} (search : SearchBody → Act σ Hits) (s : σ) (contents : List Fields)
    (clauses : List Clause) (o : SortOrder) : Prop :=
  ∀ body : SearchBody, body.text = none → body.clauses = clauses → body.sort = some o.parts →
    0 ≤ body.start → 1 ≤ body.size → ∃ found : List Fields,
      found.Perm (contents.filter fun doc => Clause.acceptsAll doc clauses = .ok true) ∧
      found.Pairwise (fun a b => o.allows (a.get o.field.name) (b.get o.field.name) = true) ∧
      (search body s).1 = .ok ⟨found.length, window found body.start (body.start + body.size)⟩

section Lowering

variable {p : SearchParams} {o : SortOrder}

/-- A directive that names an order is taken apart into it. -/
theorem sortParts_of_ofText {d : String} (named : SortOrder.ofText? d = some o) :
    IndexQuery.sortParts d = .ok o.parts := by
  unfold SortOrder.ofText? at named
  split at named
  · next f direction split =>
    simp only [Option.bind_eq_bind, Option.bind_eq_some_iff, Option.pure_def,
      Option.some.injEq] at named
    obtain ⟨field, known, descending, directed, rfl⟩ := named
    rw [IndexQuery.sortParts, split]
    dsimp only
    rw [SortField.name_of_lookup known, SortOrder.direction_of_lookup directed]
    rfl
  · cases named

/-- A search in an order becomes a query in this order. -/
theorem SearchParams.query_in_order (plain : p.textFilter? = none) (named : p.order? = some o) :
    ∃ q, p.query = .ok q ∧ q.sortPlan = .ok (some o.parts) := by
  obtain ⟨d, directive, given⟩ : ∃ d, sortDirective p.sortBy = .ok d ∧
      SortOrder.ofText? d = some o := by
    unfold order? at named
    unfold sortDirective
    cases asked : p.sortBy.filter (· ≠ "") with
    | none =>
      rw [asked] at named
      exact ⟨newestFirst, rfl, named⟩
    | some d =>
      rw [asked] at named
      have valid : SortOrder.ofText? d = some o := named
      exact ⟨d, by simp [valid], valid⟩
  have filled : d ≠ "" := by
    rintro rfl
    cases given
  refine ⟨{
    equal := p.equalities
    bounds := p.timeBounds
    page := p.page
    perPage := p.pageSize
    sortBy := some d }, ?_, ?_⟩
  · unfold query
    rw [plain, directive]
    rfl
  · simp only [IndexQuery.sortPlan, Option.filter_some, filled, ne_eq, not_false_eq_true,
      decide_true, if_true, sortParts_of_ofText given]
    rfl

/-- The request for the page of a search in an order. -/
theorem SearchParams.exists_body_in_order {q : IndexQuery} (asked : p.query = .ok q)
    (plain : p.textFilter? = none) (plan : q.sortPlan = .ok (some o.parts)) :
    ∃ body, q.body = .ok body ∧ body.text = none ∧ body.clauses = p.clauses ∧
      body.sort = some o.parts ∧ body.start = (p.page - 1) * p.pageSize ∧
      body.size = p.pageSize := by
  obtain ⟨clauses, filter, size, -⟩ := query_parts asked
  have page : q.page = p.page := by
    have same := p.query_page p.page
    rw [asked] at same
    exact congrArg IndexQuery.page (Except.ok.inj same)
  rw [q.body_eq, plan]
  refine ⟨_, rfl, ?_, clauses, rfl, ?_, size⟩
  · rw [filter, plain]
    rfl
  · rw [← page, ← size]
    rfl

end Lowering

section Primary

variable {p : SearchParams} {o : SortOrder}

/-- The primary store accepts the selected records, in the order of the search. -/
theorem Primary.accepted_in_order (db : Primary) (plain : p.textFilter? = none)
    (named : p.order? = some o) (bounded : p.selection.check = .ok ()) : ∃ rows : List LogEntry,
      db.accepted p = .ok (rows.map (·.toFields)) ∧ rows.Perm (db.selected p.selection) ∧
      rows.Pairwise fun a b => o.allows (o.field.value a) (o.field.value b) = true := by
  obtain ⟨taken, newest⟩ : ∃ taken, taken = sortBy (fun a b => b.timestampMs ≤ a.timestampMs)
      (db.selected p.selection).reverse := ⟨_, rfl⟩
  have found : db.find p.selection = .ok taken := by
    rw [find, bounded, newest]
    rfl
  have whole := find_perm found
  unfold accepted
  rw [plain, found]
  unfold SearchParams.order? at named
  unfold sortRecords
  cases asked : p.sortBy.filter (· ≠ "") with
  | none =>
    -- the order in which the records are found is the one that is the default
    rw [asked] at named
    have default : o = ⟨.timestamp, true⟩ := by
      have read : SortOrder.ofText? newestFirst = some ⟨.timestamp, true⟩ := by decide
      rw [Option.getD_none, read] at named
      exact (Option.some.inj named).symm
    refine ⟨taken, rfl, whole, ?_⟩
    have sorted := SortOrder.pairwise_sort ⟨.timestamp, true⟩ (db.selected p.selection).reverse
    rw [default, newest]
    exact sorted
  | some d =>
    rw [asked] at named
    have valid : SortOrder.ofText? d = some o := named
    refine ⟨o.sort taken, ?_, (o.sort_perm taken).trans whole, o.pairwise_sort taken⟩
    simp only [bind, Except.bind, valid]
    rfl

end Primary

section Alike

variable {p : SearchParams} {o : SortOrder}

/-- A document that mirrors a record is that of the record. -/
theorem LogEntry.MirroredBy.documentedBy {r : LogEntry} {doc : Fields}
    (same : r.MirroredBy (r.id, doc)) : r.DocumentedBy doc := by
  obtain ⟨request, -, document, -⟩ := same.document
  exact ⟨{ r with request := request }, document, rfl⟩

/-- The document of a record has the value of the record in a field that is sorted by. -/
theorem LogEntry.DocumentedBy.get_value {row : LogEntry} {doc : Fields} (same : row.DocumentedBy doc)
    (f : SortField) : doc.get f.name = f.value row := by
  obtain ⟨r, rfl, columns⟩ := same
  rw [columns]
  cases f <;> rfl

/-- The document of a record satisfies the clauses of a search if the record is selected. -/
theorem LogEntry.MirroredBy.acceptsAll {r : LogEntry} {doc : Fields}
    (same : r.MirroredBy (r.id, doc)) (filled : p.Filled) :
    Clause.acceptsAll doc p.clauses = .ok (p.selection.takes r) := by
  obtain ⟨request, -, rfl, -⟩ := same.document
  rw [p.acceptsAll_clauses, ← SearchParams.takes_eq_indexTakes filled]
  rfl

/-- The documents that satisfy the clauses of a search are those of the records that it selects. -/
theorem HoldAlike.selected {db : Primary} {contents : List Fields}
    (same : HoldAlike db.records contents) (filled : p.Filled) :
    HoldAlike (db.selected p.selection)
      (contents.filter fun doc => Clause.acceptsAll doc p.clauses = .ok true) := by
  obtain ⟨docs, perm, each⟩ := same
  refine ⟨docs.filter fun doc => Clause.acceptsAll doc p.clauses = .ok true, perm.filter _, ?_⟩
  apply List.rel_filter _ each
  intro r doc first
  show p.selection.takes r = true ↔ decide (Clause.acceptsAll doc p.clauses = .ok true) = true
  rw [first.acceptsAll filled, decide_eq_true_eq, Except.ok.injEq]

/-- Of documents in any order there are the records in the same order. -/
theorem OneToOne.exists_rows {R : LogEntry → Fields → Prop} {rows : List LogEntry}
    {contents found : List Fields} (same : OneToOne R rows contents) (perm : found.Perm contents) :
    ∃ rows', rows'.Perm rows ∧ List.Forall₂ R rows' found := by
  obtain ⟨docs, perm', each⟩ := same
  obtain ⟨rows', each', whole⟩ := List.perm_comp_forall₂ (perm.trans perm'.symm) each.flip
  exact ⟨rows', whole, each'.flip⟩

theorem OneToOne.imp {R S : LogEntry → Fields → Prop} {rows : List LogEntry}
    {contents : List Fields} (same : OneToOne R rows contents) (weaker : ∀ r doc, R r doc → S r doc) :
    OneToOne S rows contents := by
  obtain ⟨docs, perm, each⟩ := same
  exact ⟨docs, perm, each.imp weaker⟩

/-- Records and their documents have the same values. -/
theorem values_of_forall₂ {rows : List LogEntry} {found : List Fields}
    (each : List.Forall₂ LogEntry.DocumentedBy rows found) (f : SortField) :
    found.map (·.get f.name) = rows.map f.value := by
  induction each with
  | nil => rfl
  | cons first rest ih => rw [List.map_cons, List.map_cons, first.get_value, ih]

/-- Of documents in an order there are the records in the same order. -/
theorem HoldAlike.exists_ordered {rows : List LogEntry} {contents found : List Fields}
    (same : HoldAlike rows contents) (perm : found.Perm contents)
    (ordered : found.Pairwise fun a b =>
      o.allows (a.get o.field.name) (b.get o.field.name) = true) :
    ∃ rows', rows'.Perm rows ∧ List.Forall₂ (fun r doc => r.MirroredBy (r.id, doc)) rows' found ∧
      found.map (·.get o.field.name) = rows'.map o.field.value ∧
      rows'.Pairwise fun a b => o.allows (o.field.value a) (o.field.value b) = true := by
  obtain ⟨rows', perm', each⟩ := same.exists_rows perm
  have documented : List.Forall₂ LogEntry.DocumentedBy rows' found :=
    each.imp fun _ _ mirrored => mirrored.documentedBy
  have values := values_of_forall₂ documented o.field
  have inOrder : (found.map (·.get o.field.name)).Pairwise fun v w => o.allows v w = true :=
    List.pairwise_map.2 ordered
  rw [values] at inOrder
  exact ⟨rows', perm', each, values, List.pairwise_map.1 inOrder⟩

/-- The same logs in one order have the same values at each place. -/
theorem values_of_pairwise {rows rows' : List LogEntry} (same : rows.Perm rows')
    (ordered : rows.Pairwise fun a b => o.allows (o.field.value a) (o.field.value b) = true)
    (ordered' : rows'.Pairwise fun a b => o.allows (o.field.value a) (o.field.value b) = true) :
    rows.map o.field.value = rows'.map o.field.value := by
  have inOrder : (rows.map o.field.value).Pairwise fun v w => o.allows v w = true :=
    List.pairwise_map.2 ordered
  apply List.Perm.eq_of_pairwise _ inOrder (List.pairwise_map.2 ordered') (same.map _)
  intro v w first second vw wv
  obtain ⟨a, -, rfl⟩ := List.mem_map.1 first
  obtain ⟨b, -, rfl⟩ := List.mem_map.1 second
  exact SortOrder.allows_antisymm vw wv

/-- Logs with distinct values are in one order in only one way. -/
theorem eq_of_pairwise {rows rows' : List LogEntry} (same : rows.Perm rows')
    (ordered : rows.Pairwise fun a b => o.allows (o.field.value a) (o.field.value b) = true)
    (ordered' : rows'.Pairwise fun a b => o.allows (o.field.value a) (o.field.value b) = true)
    (distinct : (rows'.map o.field.value).Nodup) : rows = rows' := by
  apply List.Perm.eq_of_pairwise _ ordered ordered' same
  intro a b first second ab ba
  exact List.inj_on_of_nodup_map distinct (same.mem_iff.1 first) second
    (SortOrder.allows_antisymm ab ba)

/-- Related lists have related pages. -/
theorem forall₂_pageOf {α β : Type} {R : α → β → Prop} {xs : List α} {ys : List β}
    (each : List.Forall₂ R xs ys) (page size : Int) :
    List.Forall₂ R (pageOf xs page size) (pageOf ys page size) := by
  unfold pageOf window
  rw [each.length_eq]
  exact List.forall₂_take _ (List.forall₂_drop _ each)

end Alike

/-- Where both stores hold the same logs, a search without a text filter is answered alike by either
of them, whatever it sorts by and whatever page it asks for: with one total, and with the same
values of the field that is sorted by at each place of the page. If these differ from log to log, the
page shows the same logs in the same order. -/
theorem structured_pages_agree {σ : Type} {search : SearchBody → Act σ Hits} {s : σ} {db : Primary}
    {contents : List Fields} (limits : ScanLimits) {p : SearchParams} {o : SortOrder}
    (alike : HoldAlike db.records contents) (plain : p.textFilter? = none) (filled : p.Filled)
    (bounded : p.minTimestampMs.all Word.holds ∧ p.maxTimestampMs.all Word.holds)
    (named : p.order? = some o) (first : 1 ≤ p.page) (sized : 1 ≤ p.pageSize)
    (answers : AnswersInOrder search s contents p.clauses o) :
    ∃ indexed stored, (searchIndexed search limits p s).1 = .ok indexed ∧
      db.search p = .ok stored ∧ indexed.total = stored.total ∧
      indexed.logs.map (·.get o.field.name) = stored.logs.map (·.get o.field.name) ∧
      (((db.selected p.selection).map o.field.value).Nodup →
        List.Forall₂ (fun doc log => ∃ r ∈ db.selected p.selection, log = r.toFields ∧
          r.MirroredBy (r.id, doc)) indexed.logs stored.logs) := by
  have checked : p.selection.check = .ok () := by
    simp [Selection.check, SearchParams.selection, bounded.1, bounded.2]
  obtain ⟨q, asked, plan⟩ := SearchParams.query_in_order plain named
  -- the index cuts the page out of documents in the order that is asked for
  obtain ⟨body, written, text, clauses, sort, start, size⟩ :=
    SearchParams.exists_body_in_order asked plain plan
  have lower : 0 ≤ (p.page - 1) * p.pageSize := Int.mul_nonneg (by omega) (by omega)
  obtain ⟨found, perm, foundOrdered, answered⟩ :=
    answers body text clauses sort (start ▸ lower) (size ▸ sized)
  rw [start, size] at answered
  -- the store cuts it out of the selected records in that order
  obtain ⟨rows, accepted, whole, rowsOrdered⟩ := db.accepted_in_order plain named checked
  -- and the documents found are those of the same records
  obtain ⟨rows', perm', each, values, rowsOrdered'⟩ :=
    (alike.selected filled).exists_ordered perm foundOrdered
  have same : rows'.Perm rows := perm'.trans whole.symm
  refine ⟨_, _, by rw [searchIndexed_of_none asked plain written, answered]; rfl,
    (Primary.search_page p db p.page).trans (by rw [accepted]; rfl), ?_, ?_, ?_⟩
  · show (found.length : Int) = ((rows.map (·.toFields)).length : Int)
    rw [List.length_map, ← same.length_eq, each.length_eq]
  · show (pageOf found p.page p.pageSize).map _ = (pageOf (rows.map (·.toFields)) _ _).map _
    rw [map_pageOf, map_pageOf, List.map_map, values,
      values_of_pairwise same rowsOrdered' rowsOrdered]
    rfl
  · intro distinct
    have equal : rows' = rows := by
      apply eq_of_pairwise same rowsOrdered' rowsOrdered
      exact (whole.map o.field.value).nodup_iff.2 distinct
    subst equal
    have chosen := (List.forall₂_and_left (p := (· ∈ db.selected p.selection)) rows' found).2
      ⟨fun r mem => whole.mem_iff.1 mem, each⟩
    refine forall₂_pageOf (List.forall₂_map_right_iff.2 ?_) p.page p.pageSize
    exact chosen.flip.imp fun doc r both => ⟨r, both.1, rfl, both.2⟩

/-- Related lists are made of pairs that are related. -/
theorem exists_pairs {α β : Type} {R : α → β → Prop} {xs : List α} {ys : List β}
    (each : List.Forall₂ R xs ys) : ∃ pairs : List { p : α × β // R p.1 p.2 },
      pairs.map (·.1.1) = xs ∧ pairs.map (·.1.2) = ys := by
  induction each with
  | nil => exact ⟨[], rfl, rfl⟩
  | cons first _ ih =>
    obtain ⟨pairs, rfl, rfl⟩ := ih
    exact ⟨⟨(_, _), first⟩ :: pairs, rfl, rfl⟩

namespace SearchIndex

/-- A document is sorted by the value of its record, if that is not an empty text. -/
theorem sortValue_eq {row : LogEntry} {doc : Fields} (same : row.DocumentedBy doc) {f : SortField}
    (given : f.value row ≠ .str "") : sortValue f.name doc = f.value row := by
  rw [sortValue, same.get_value]
  rcases f.value_cases with ⟨number, is⟩ | ⟨text, is⟩
  · rw [is]
    by_cases zero : number row = 0 <;> simp [Json.orElse, Json.truthy, zero]
  · rw [is] at given ⊢
    have filled : text row ≠ "" := fun empty => given (by rw [empty])
    simp [Json.orElse, Json.truthy, filled]

/-- A healthy index that holds the documents of some records answers searches in order, if no record
has an empty text in the field that is sorted by. -/
theorem answersInOrder {ix : SearchIndex} (healthy : ix.Healthy) {rows : List LogEntry}
    (alike : OneToOne LogEntry.DocumentedBy rows ix.contents) (p : SearchParams) (o : SortOrder)
    (given : ∀ r ∈ rows, o.field.value r ≠ .str "") :
    AnswersInOrder search ix ix.contents p.clauses o := by
  intro body _ clauses sort _ _
  obtain ⟨rows', same, each⟩ := alike.exists_rows (.refl _)
  have filled : ∀ r ∈ rows', o.field.value r ≠ .str "" := fun r mem => given r (same.mem_iff.1 mem)
  obtain ⟨pairs, -, contents⟩ := exists_pairs ((List.forall₂_and_left _ _).2 ⟨filled, each⟩)
  have verdicts : ∀ doc ∈ ix.contents, ∃ b, Clause.acceptsAll doc p.clauses = .ok b := by
    rw [← contents]
    intro doc mem
    obtain ⟨pair, -, rfl⟩ := List.mem_map.1 mem
    obtain ⟨r, document, -⟩ := pair.2.2
    exact ⟨_, document ▸ p.acceptsAll_clauses r⟩
  have kept : ix.contents.filter (fun doc => Clause.acceptsAll doc p.clauses = .ok true) =
      (pairs.filter fun pair => Clause.acceptsAll pair.1.2 p.clauses = .ok true).map (·.1.2) := by
    rw [← contents, List.filter_map]
    rfl
  obtain ⟨ordered, sorts, order⟩ := exists_sorted o (fun pair => pair.1.1) (fun pair => pair.1.2)
    (fun pair => sortValue_eq pair.2.2 pair.2.1)
    (pairs.filter fun pair => Clause.acceptsAll pair.1.2 p.clauses = .ok true)
  rw [← kept] at sorts
  have answered : answer body ix.contents = .ok ⟨(ordered.map (·.1.2)).length,
      window (ordered.map (·.1.2)) body.start (body.start + body.size)⟩ := by
    unfold answer
    rw [clauses, sort, passing_of_verdicts verdicts]
    simp only [bind, Except.bind, sorts]
    rfl
  obtain ⟨ix', searched, -⟩ := search_healthy healthy answered
  refine ⟨ordered.map (·.1.2), sorted_perm sorts, ?_, by rw [searched]⟩
  rw [List.pairwise_map]
  apply order.imp
  intro a b ab
  rw [a.2.2.get_value, b.2.2.get_value]
  exact ab

end SearchIndex

/-- An index that mirrors the records holds the same logs. -/
theorem Site.Mirrored.holdAlike {s : Site} (h : s.Mirrored) :
    HoldAlike s.primary.records s.index.contents := by
  refine ⟨s.index.contents, .refl _, List.forall₂_map_right_iff.2 (h.documents.imp ?_)⟩
  intro r d same
  exact ⟨rfl, same.document⟩

/-- The shop holds logs after the first calls of its service. -/
theorem Site.shopService_holds : ∃ logs, (shopSite.served (shopService.take 3)).Holds logs := by
  have start : shopSite.Holds [] := ⟨rfl, ⟨⟨rfl, fun _ _ => rfl⟩, rfl⟩, List.nodup_nil, nofun⟩
  have plain : ∀ now payload, .change (.ingest now payload) ∈ shopService.take 3 →
      PlainPayload payload :=
    fun now payload mem => shopCalls_plain now payload
      (by simpa [shopService] using List.mem_of_mem_take mem)
  exact start.served (by decide) (by decide) plain

/-- A search for the logs on one host, the oldest first, two on a page. -/
def oldestFirst : SearchParams where
  projectId := "shop"
  page := 2
  pageSize := 2
  hostname := some (.many ["web-01"])
  sortBy := some "timestamp_ms:asc"

theorem structured_pages_agree_oldestFirst : ∃ indexed stored,
    (searchIndexed SearchIndex.search {} oldestFirst
      (Site.shopSite.served (Site.shopService.take 3)).index).1 = .ok indexed ∧
    (Site.shopSite.served (Site.shopService.take 3)).primary.search oldestFirst = .ok stored ∧
    indexed.total = stored.total ∧
    indexed.logs.map (·.get "timestamp_ms") = stored.logs.map (·.get "timestamp_ms") ∧
    List.Forall₂ (fun doc log =>
      ∃ r ∈ (Site.shopSite.served (Site.shopService.take 3)).primary.selected oldestFirst.selection,
        log = r.toFields ∧ r.MirroredBy (r.id, doc)) indexed.logs stored.logs := by
  obtain ⟨logs, held⟩ := Site.shopService_holds
  have alike := held.mirrored.holdAlike
  have answers := SearchIndex.answersInOrder held.index.1
    (alike.imp fun _ _ mirrored => mirrored.documentedBy) oldestFirst
    ⟨.timestamp, false⟩ (fun _ _ => by rintro ⟨⟩)
  obtain ⟨indexed, stored, fromIndex, fromStore, total, values, same⟩ :=
    structured_pages_agree {} alike rfl
      ⟨by simp [Wanted.Filled, oldestFirst], by simp [Wanted.Filled, oldestFirst],
        by simp [Wanted.Filled, oldestFirst]⟩ ⟨rfl, rfl⟩ (by decide) (by decide) (by decide) answers
  exact ⟨indexed, stored, fromIndex, fromStore, total, values, same (by decide +kernel)⟩

end Logbook

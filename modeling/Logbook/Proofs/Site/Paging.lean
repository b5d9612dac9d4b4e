import Logbook.Proofs.Query.Pagination
import Logbook.Proofs.Site.Mirroring

/-!
# Paging through an answer

A search is answered by the index, with or without a text filter, or by the primary store. On each
way there is one list of accepted logs, whatever page is asked for, and the page is a window of it
(`Site.search_pages`). So paging through the answer loses and repeats nothing, in whatever state the
site is, as long as it stays in that state (`Site.pages_partition`).
-/

namespace Logbook

namespace SearchParams

variable {p : SearchParams}

/-- The page of a search is the page of its query, and nothing else in the query depends on it. -/
theorem query_page (p : SearchParams) (n : Int) :
    ({ p with page := n } : SearchParams).query = p.query.map fun q => { q with page := n } := by
  have filter : ({ p with page := n } : SearchParams).textFilter? = p.textFilter? := rfl
  unfold query
  rw [filter]
  cases p.textFilter? with
  | none => cases directive : sortDirective p.sortBy <;> rfl
  | some t => rfl

/-- Of the logs that an index serves those that a search accepts: all, or those among the first ones
that its text filter accepts. -/
def verified (p : SearchParams) (limits : ScanLimits) (found : List Fields) :
    Except Fault (List Fields) :=
  match p.textFilter? with
  | none => .ok found
  | some t => t.verify (found.take limits.maxHits.toNat)

end SearchParams

section Windows

variable {p : SearchParams} {q : IndexQuery}

/-- A query for one page is the query with that page asked of it. -/
theorem IndexQuery.body_page (q : IndexQuery) {n : Int} (first : 1 ≤ n) :
    ({ q with page := n } : IndexQuery).body = q.body (some n) := by
  unfold body
  rw [orPage_some, if_neg (by omega)]
  rfl

/-- The answer of an index without a text filter is that to one request. -/
theorem searchIndexed_of_none {σ : Type} {search : SearchBody → Act σ Hits}
    {limits : ScanLimits} {s : σ} (asked : p.query = .ok q) (filter : p.textFilter? = none)
    {body : SearchBody} (written : q.body = .ok body) :
    (searchIndexed search limits p s).1 = (search body s).1.map fun hits =>
      { logs := hits.documents, total := hits.total, page := p.page, pageSize := p.pageSize } := by
  obtain ⟨-, kept, -, -⟩ := SearchParams.query_parts asked
  rw [searchIndexed, asked, Act.bind_of_ok (Act.ofExcept_ok q s), kept, filter]
  dsimp only
  rw [written, Act.bind_of_ok (Act.ofExcept_ok body s), Act.bind_apply]
  rcases search body s with ⟨f | hits, s'⟩ <;> rfl

/-- The answer of an index with a text filter is a page of the candidates that it accepts. -/
theorem searchIndexed_of_some {σ : Type} {search : SearchBody → Act σ Hits}
    {limits : ScanLimits} {s : σ} (asked : p.query = .ok q) {t : SurfaceFilter}
    (filter : p.textFilter? = some t) :
    (searchIndexed search limits p s).1 =
      ((candidates search q limits s).1.bind t.verify).map
        (.cut .index p.page p.pageSize) := by
  obtain ⟨-, kept, -, -⟩ := SearchParams.query_parts asked
  rw [searchIndexed, asked, Act.bind_of_ok (Act.ofExcept_ok q s), kept, filter]
  dsimp only
  rw [Act.bind_apply]
  rcases candidates search q limits s with ⟨f | scanned, s'⟩
  · rfl
  · dsimp only [Except.bind]
    rw [Act.bind_apply]
    cases t.verify scanned <;> rfl

/-- An index that serves one list answers each page of a search with a window of what the search
accepts of that list. -/
theorem searchIndexed_serves {σ : Type} {search : SearchBody → Act σ Hits}
    {found logs : List Fields} {Ready : σ → Prop} (asked : p.query = .ok q)
    (serves : Serves search q found Ready) {s : σ} (ready : Ready s) {limits : ScanLimits}
    (given : 0 ≤ limits.pageSize) (sized : 1 ≤ p.pageSize)
    (accepted : p.verified limits found = .ok logs) {page : Int} (first : 1 ≤ page) :
    (searchIndexed search limits { p with page := page } s).1 =
      .ok (.cut .index page p.pageSize logs) := by
  obtain ⟨-, -, size, -⟩ := SearchParams.query_parts asked
  have asked' : ({ p with page := page } : SearchParams).query = .ok { q with page := page } := by
    rw [p.query_page, asked]
    rfl
  cases filter : p.textFilter? with
  | none =>
    obtain ⟨body, s', written, answered, -⟩ := serves s ready (some page) none
    rw [← q.body_page first] at written
    rw [orPage_some, if_neg (by omega), size] at answered
    rw [SearchParams.verified, filter] at accepted
    cases accepted
    rw [searchIndexed_of_none asked' filter written, answered]
    rfl
  | some t =>
    obtain ⟨s', scanned, -⟩ := candidates_serves serves given (size ▸ sized) ready
    rw [SearchParams.verified, filter] at accepted
    dsimp only at accepted
    rw [searchIndexed_of_some asked' filter, candidates_page, scanned]
    dsimp only [Except.bind]
    rw [accepted]
    rfl

end Windows

namespace Primary

variable {p : SearchParams} {db : Primary} {logs : List Fields}

/-- The primary store answers each page of a search with a window of what it accepts. -/
theorem search_page (p : SearchParams) (db : Primary) (page : Int) :
    db.search { p with page := page } =
      (db.accepted p).map (.cut .primary page p.pageSize) := by
  have same : db.accepted { p with page := page } = db.accepted p := rfl
  unfold search
  rw [same]
  cases db.accepted p <;> rfl

/-- What the primary store accepts: the selected records, sorted or verified. -/
theorem accepted_cases (accepted : db.accepted p = .ok logs) :
    ∃ taken, db.find p.selection = .ok taken ∧
      ((p.textFilter? = none ∧
          ∃ records, sortRecords p.sortBy taken = .ok records ∧ logs = records.map (·.toFields)) ∨
        ∃ t, p.textFilter? = some t ∧ logs = (taken.filter t.holds).map (·.toFields)) := by
  unfold Primary.accepted at accepted
  cases selected : db.find p.selection with
  | error f =>
    rw [selected] at accepted
    cases accepted
  | ok taken =>
    rw [selected] at accepted
    cases filter : p.textFilter? with
    | none =>
      rw [filter] at accepted
      cases ordered : sortRecords p.sortBy taken with
      | error f =>
        simp only [ordered, bind, Except.bind] at accepted
        cases accepted
      | ok records =>
        simp only [ordered, bind, Except.bind] at accepted
        cases accepted
        exact ⟨taken, rfl, .inl ⟨rfl, records, ordered, rfl⟩⟩
    | some t =>
      rw [filter] at accepted
      simp only [bind, Except.bind, t.verify_toFields] at accepted
      cases accepted
      exact ⟨taken, rfl, .inr ⟨t, rfl, rfl⟩⟩

/-- The primary store accepts the logs that a search asks for. -/
theorem accepted_perm (accepted : db.accepted p = .ok logs) :
    logs.Perm ((db.records.filter fun r => p.Finds r).map (·.toFields)) := by
  obtain ⟨taken, selected, ⟨filter, records, ordered, rfl⟩ | ⟨t, filter, rfl⟩⟩ :=
    accepted_cases accepted
  · have alike : (fun r => decide (p.Finds r)) = p.selection.takes := by
      funext r
      simp only [SearchParams.finds_iff_takes filter, Bool.decide_eq_true]
    rw [alike]
    exact ((sortRecords_perm ordered).trans (find_perm selected)).map _
  · have alike : (fun r => decide (p.Finds r)) = fun r => t.holds r && p.selection.takes r := by
      funext r
      simp only [SearchParams.finds_iff filter, Bool.decide_and, Bool.decide_eq_true,
        Bool.and_comm]
    have found := ((find_perm selected).filter t.holds).map (·.toFields)
    rw [Primary.selected, List.filter_filter] at found
    rwa [alike]

end Primary

namespace SearchIndex

/-- The documents that satisfy the clauses of a search. -/
def passed (ix : SearchIndex) (p : SearchParams) : List Fields :=
  ix.contents.filter fun doc => Clause.acceptsAll doc p.clauses = .ok true

/-- What the scan for a search comes to: the documents that satisfy its clauses, as far as they are
scanned. Pages of a size below zero bring fewer. -/
structure Scans (ix : SearchIndex) (limits : ScanLimits) (p : SearchParams)
    (scanned : List Fields) : Prop where
  ran : ∃ q, p.query = .ok q ∧ (candidates search q limits ix).1 = .ok scanned
  first : 0 ≤ limits.pageSize → scanned = (ix.passed p).take limits.maxHits.toNat

/-- The index accepts these logs: those that satisfy the clauses or, with a text filter, those among
the scanned ones that the filter accepts. -/
def Accepts (ix : SearchIndex) (limits : ScanLimits) (p : SearchParams) (logs : List Fields) :
    Prop :=
  match p.textFilter? with
  | none => logs.Perm (ix.passed p)
  | some t => ∃ scanned, ix.Scans limits p scanned ∧
    logs = scanned.filter fun doc => t.accepts doc = .ok true

/-- With a text filter the index accepts what the filter accepts of the scanned documents. -/
theorem accepts_of_scan {ix : SearchIndex} {limits : ScanLimits} {p : SearchParams} {q : IndexQuery}
    {t : SurfaceFilter} (sized : 1 ≤ p.pageSize) (asked : p.query = .ok q)
    (filter : p.textFilter? = some t) {logs : List Fields}
    (verified : (candidates search q limits ix).1.bind t.verify = .ok logs) :
    ix.Accepts limits p logs := by
  obtain ⟨q', asked', clauses, -, size, unsorted⟩ := p.exists_query filter
  rw [asked] at asked'
  cases asked'
  unfold Accepts
  rw [filter]
  cases ran : (candidates search q limits ix).1 with
  | error f =>
    rw [ran] at verified
    cases verified
  | ok scanned =>
    rw [ran] at verified
    refine ⟨scanned, ⟨⟨q, asked, ran⟩, fun given => ?_⟩, SurfaceFilter.eq_filter_of_verify verified⟩
    have serves : MayServe search q (ix.passed p) (·.documents = ix.documents) :=
      mayServe unsorted fun docs passes => by
        rw [clauses] at passes
        exact eq_filter_of_passing passes
    exact candidates_mayServe serves given (size ▸ sized) rfl ran

/-- The index answers each page of a search with a window of what it accepts, or it fails on each
page alike. -/
theorem search_pages (ix : SearchIndex) (limits : ScanLimits) {p : SearchParams}
    (sized : 1 ≤ p.pageSize) : ∃ found : Except Fault (List Fields),
      (∀ page, (searchIndexed search limits { p with page := page } ix).1 =
        found.map (.cut .index page p.pageSize)) ∧
      ∀ logs, found = .ok logs → ix.Accepts limits p logs := by
  cases asked : p.query with
  | error f =>
    refine ⟨.error f, ?_, nofun⟩
    intro page
    rw [searchIndexed, p.query_page, asked]
    rfl
  | ok q =>
    obtain ⟨clauses, -, size, parts, plan⟩ := SearchParams.query_parts asked
    have asked' (page : Int) :
        ({ p with page := page } : SearchParams).query = .ok { q with page := page } := by
      rw [p.query_page, asked]
      rfl
    cases filter : p.textFilter? with
    | none =>
      obtain ⟨found, cut, whole⟩ := ix.search_windows p.clauses parts
      unfold Accepts
      rw [filter]
      refine ⟨found, fun page => ?_, whole⟩
      have written := IndexQuery.body_eq { q with page := page } none none
      rw [show ({ q with page := page } : IndexQuery).sortPlan = .ok parts from plan] at written
      rw [searchIndexed_of_none (asked' page) filter written, cut _ clauses rfl, ← size]
      cases found <;> rfl
    | some t =>
      refine ⟨(candidates search q limits ix).1.bind t.verify, ?_, ?_⟩
      · intro page
        rw [searchIndexed_of_some (asked' page) filter, candidates_page]
      · intro logs found
        exact accepts_of_scan sized asked filter found

end SearchIndex

namespace Site

/-- A search accepts these logs from a source. -/
def AcceptsFrom (s : Site) (p : SearchParams) : Source → List Fields → Prop
  | .index, logs => s.index.Accepts s.scanLimits p logs
  | .primary, logs => logs.Perm ((s.primary.records.filter fun r => p.Finds r).map (·.toFields))

/-- How a search in a project that there is ends: as in the index if that is open and has no fault of
being unavailable, else as in the primary store. -/
theorem search_fst {s : Site} {p : SearchParams} {project : Project}
    (known : s.primary.project p.projectId = .ok project) : (search p s).1 =
      if s.index.isOpen then
        match (searchIndexed SearchIndex.search s.scanLimits p s.index).1 with
        | .ok r => .ok r
        | .error f => if f.isIndexUnavailable then s.primary.search p else .error f
      else s.primary.search p := by
  simp only [search, Act.bind_apply, Act.get_apply, onIndex, Act.onPart_apply, searchProject, known,
    Act.ofExcept_ok, searchEither]
  split
  · rcases searchIndexed SearchIndex.search s.scanLimits p s.index with ⟨f | r, ix⟩ <;> rfl
  · rfl

/-- Whatever state the site is in, it answers each page of a search with a window of what the search
accepts from one source, or it fails on each page alike. -/
theorem search_pages (s : Site) {p : SearchParams} (sized : 1 ≤ p.pageSize) :
    ∃ source, ∃ found : Except Fault (List Fields),
      (∀ page, (search { p with page := page } s).1 =
        found.map (.cut source page p.pageSize)) ∧
      ∀ logs, found = .ok logs → s.AcceptsFrom p source logs := by
  cases known : s.primary.project p.projectId with
  | error f =>
    refine ⟨.primary, .error f, ?_, nofun⟩
    intro page
    simp [search, Act.bind_apply, onIndex, searchProject, known, Except.map]
  | ok project =>
    have ends (page : Int) := search_fst (p := { p with page := page }) known
    have stored (page : Int) := Primary.search_page p s.primary page
    cases connected : s.index.isOpen with
    | false =>
      refine ⟨.primary, s.primary.accepted p, fun page => ?_, fun logs => Primary.accepted_perm⟩
      rw [ends, connected, ← stored]
      rfl
    | true =>
      obtain ⟨found, cut, accepted⟩ := s.index.search_pages s.scanLimits sized
      cases found with
      | ok logs =>
        refine ⟨.index, .ok logs, fun page => ?_, accepted⟩
        rw [ends, connected, cut]
        rfl
      | error f =>
        cases unavailable : f.isIndexUnavailable with
        | true =>
          refine ⟨.primary, s.primary.accepted p, fun page => ?_, fun logs => Primary.accepted_perm⟩
          rw [ends, connected, cut, ← stored]
          simp [Except.map, unavailable]
        | false =>
          refine ⟨.index, .error f, fun page => ?_, nofun⟩
          rw [ends, connected, cut]
          simp [Except.map, unavailable]

/-- Paging through an answer loses and repeats nothing. A site that answers a search answers all its
pages from one source, and they cut what the search accepts from that source into pages, whatever
state the site is in. So do the pages of any index that serves one list for the query of a search. -/
theorem pages_partition {p : SearchParams} (sized : 1 ≤ p.pageSize) (small : p.pageSize < 2 ^ 53) :
    (∀ (s : Site) (r : ResultPage), (search p s).1 = .ok r → r.total < 2 ^ 53 →
      ∃ logs, s.AcceptsFrom p r.source logs ∧
        Paginates (fun page => (search { p with page := page } s).1) p.pageSize r.source logs) ∧
    (∀ {σ : Type} (index : SearchBody → Act σ Hits) {q : IndexQuery} {found logs : List Fields}
      {Ready : σ → Prop} {limits : ScanLimits} {s : σ}, p.query = .ok q →
      Serves index q found Ready → Ready s → 0 ≤ limits.pageSize →
      p.verified limits found = .ok logs → logs.length < 2 ^ 53 →
        Paginates (fun page => (searchIndexed index limits { p with page := page } s).1)
          p.pageSize .index logs) := by
  obtain ⟨size, width⟩ := Int.eq_ofNat_of_zero_le (by omega : 0 ≤ p.pageSize)
  constructor
  · intro s r answered few
    obtain ⟨source, found, cut, accepted⟩ := s.search_pages sized
    have here : (search p s).1 = found.map (.cut source p.page p.pageSize) := cut p.page
    rw [answered] at here
    cases found with
    | error f => cases here
    | ok logs =>
      cases here
      have length : (logs.length : Int) < 2 ^ 53 := few
      refine ⟨logs, accepted logs rfl, ?_⟩
      rw [width]
      exact .of_windows (by omega) (by omega) (by omega) fun page _ => width ▸ cut page
  · intro σ index q found logs Ready limits s asked serves ready given verified few
    rw [width]
    apply Paginates.of_windows (by omega) (by omega) few
    intro page first
    rw [← width]
    exact searchIndexed_serves asked serves ready given sized verified first

/-- The search for a word in messages over a shop of three logs, of which two are found, and over an
index that serves the document of one log. -/
theorem pages_partition_timeoutSearch :
    (∃ r logs, (search timeoutSearch (shopSite.after (shopCalls.take 3))).1 = .ok r ∧
      r.total = 2 ∧ (shopSite.after (shopCalls.take 3)).AcceptsFrom timeoutSearch r.source logs ∧
      Paginates (fun page => (search { timeoutSearch with page := page }
        (shopSite.after (shopCalls.take 3))).1) 1 r.source logs) ∧
    Paginates (fun page => (searchIndexed SearchIndex.search {} { timeoutSearch with page := page }
      { documents := [("log-1", documentOf SearchParams.namedHostLog.toFields)] }).1) 1 .index
      [documentOf SearchParams.namedHostLog.toFields] := by
  have partition := pages_partition (show 1 ≤ timeoutSearch.pageSize by decide) (by decide)
  constructor
  · have found : ((search timeoutSearch (shopSite.after (shopCalls.take 3))).1.toOption.map
        (·.total)) = some 2 := by decide +kernel
    rcases answered : (search timeoutSearch (shopSite.after (shopCalls.take 3))).1 with f | r
    · rw [answered] at found
      cases found
    · rw [answered] at found
      have total : r.total = 2 := by simpa [Except.toOption] using found
      obtain ⟨logs, accepted, pages⟩ :=
        partition.1 (shopSite.after (shopCalls.take 3)) r answered (by omega)
      exact ⟨r, logs, rfl, total, accepted, pages⟩
  · obtain ⟨q, asked, clauses, -, -, unsorted⟩ :=
      SearchParams.exists_query (show timeoutSearch.textFilter? =
        some ⟨.message, ⟨.and, [⟨"TIMEOUT", .anywhere⟩]⟩⟩ from rfl)
    have contents : [("log-1", documentOf SearchParams.namedHostLog.toFields)].map (·.2) =
        [SearchParams.namedHostLog].map fun r => documentOf r.toFields := rfl
    have serves := SearchIndex.serves_healthy unsorted _ timeoutSearch.indexTakes
      (clauses ▸ timeoutSearch.acceptsAll_clauses) _ contents
    exact partition.2 SearchIndex.search asked serves ⟨⟨rfl, fun _ _ => rfl⟩, rfl⟩ (by decide)
      (by decide +kernel) (by decide)

end Site

end Logbook

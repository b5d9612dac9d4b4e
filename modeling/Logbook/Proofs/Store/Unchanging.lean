import Logbook.Proofs.Query.Agreement
import Logbook.Proofs.Store.Outages

/-!
# Reading an index that does not change

An index that does not change answers each request for a window of what it finds with that window and
the number of all that it finds (`Unchanging`). Of such an index both loops over pages read what they
are to read, whatever the size of their pages: the candidates are the first documents up to the cap,
and the identifiers collected are those of all documents, in the order of the index and each once
(`unchanging_readsInFull`).
-/

namespace Logbook

variable {σ : Type} {search : SearchBody → Act σ Hits} {q : IndexQuery} {asked : SearchBody}
  {found : List Fields} {Ready : σ → Prop}

/-- An index does not change as far as a request goes: from a state that is ready, whatever window of
its answer is asked for, it answers with the number of the documents found and with those in the
window, and it is then ready again. -/
def Unchanging (search : SearchBody → Act σ Hits) (asked : SearchBody) (found : List Fields)
    (Ready : σ → Prop) : Prop :=
  ∀ s, Ready s → ∀ start size : Nat, ∃ s',
    search { asked with start := start, size := size } s =
      (.ok ⟨found.length, (found.drop start).take size⟩, s') ∧ Ready s'

/-- Both loops over the pages of a query read the documents found for it, whatever the size of their
pages. -/
structure ReadsInFull (search : SearchBody → Act σ Hits) (q : IndexQuery) (found : List Fields)
    (Ready : σ → Prop) : Prop where
  /-- The scan ends with as many of the first documents as it is capped at. -/
  scanned : ∀ limits : ScanLimits, 0 ≤ limits.pageSize → ∀ s, Ready s →
    ∃ s', candidates search q limits s =
      (.ok (found.take (min found.length limits.maxHits.toNat)), s') ∧ Ready s'
  /-- More rounds than there are documents wanted would change nothing in the scan. -/
  unbroken : ∀ (limits : ScanLimits) (more : Nat),
    candidatesFrom search q limits (limits.maxHits.toNat + more) 1 [] =
      candidatesFrom search q limits limits.maxHits.toNat 1 []
  /-- The collection ends with all documents, as soon as it has more rounds than there are any. -/
  collected : ∀ pageSize : Int, 0 ≤ pageSize → ∀ rounds, found.length < rounds → ∀ s, Ready s →
    ∃ s', collectIds search q pageSize rounds s = (.ok (documentIds found), s') ∧ Ready s'
  /-- More rounds than that would change nothing in the collection either. -/
  uncut : ∀ pageSize : Int, 0 ≤ pageSize → ∀ rounds, found.length < rounds → ∀ s, Ready s →
    ∀ more, collectIds search q pageSize (rounds + more) s = collectIds search q pageSize rounds s

/-- The requests for the pages of a query differ in their windows alone. -/
theorem IndexQuery.body_windows (written : q.body = .ok asked) : asked.clauses = q.clauses ∧
    ∀ page perPage, q.body page perPage = .ok { asked with
      start := (orPage page q.page - 1) * orPage perPage q.perPage
      size := orPage perPage q.perPage } := by
  simp only [q.body_eq] at written ⊢
  cases plan : q.sortPlan with
  | error f =>
    rw [plan] at written
    cases written
  | ok parts =>
    rw [plan] at written
    cases written
    exact ⟨rfl, fun _ _ => rfl⟩

/-- The pages of a query are windows of its request. -/
theorem Unchanging.pages (unchanging : Unchanging search asked found Ready)
    (written : q.body = .ok asked) {pageSize : Int} {size : Nat}
    (sized : orPage (some pageSize) q.perPage = size) :
    ServesPages search q found pageSize size Ready := by
  intro s ready k
  obtain ⟨s', answered, again⟩ := unchanging s ready (k * size) size
  have start : (orPage (some (k + 1 : Int)) q.page - 1) * size = (k * size : Nat) := by
    rw [orPage_some, if_neg (by omega), Int.add_sub_cancel]
    push_cast
    rfl
  refine ⟨_, s', (IndexQuery.body_windows written).2 _ _, ?_, again⟩
  rw [sized, start, answered, pageOf_succ]

/-- From an index that does not change both loops read in full. -/
theorem Unchanging.readsInFull (unchanging : Unchanging search asked found Ready)
    (written : q.body = .ok asked) (placed : 1 ≤ q.perPage) : ReadsInFull search q found Ready where
  scanned := by
    intro limits given s ready
    obtain ⟨size, sized, pos, within⟩ := exists_pageSize given placed
    rw [Nat.min_comm, ← List.take_eq_take_min]
    exact candidates_pages (unchanging.pages written sized) pos within ready
  unbroken := fun limits more =>
    candidatesFrom_add_fuel search q limits (by rw [List.length_nil]; omega) more
  collected := by
    intro pageSize given rounds enough s ready
    obtain ⟨size, sized, pos, within⟩ := exists_pageSize given placed
    obtain ⟨s', again, ran⟩ :=
      collectIds_pages (unchanging.pages written sized) pos within enough ready
    exact ⟨s', ran 0, again⟩
  uncut := by
    intro pageSize given rounds enough s ready more
    obtain ⟨size, sized, pos, within⟩ := exists_pageSize given placed
    obtain ⟨s', -, ran⟩ :=
      collectIds_pages (unchanging.pages written sized) pos within enough ready
    exact (ran more).trans (ran 0).symm

/-- A healthy index that keeps its documents does not change. -/
theorem SearchIndex.unchanging {documents : List (String × Fields)} {passed : List Fields}
    (passes : passing asked.clauses (documents.map (·.2)) = .ok passed)
    (ordered : sorted asked.sort passed = .ok found) :
    Unchanging SearchIndex.search asked found (Holding documents) := by
  rintro ix ⟨healthy, held⟩ start size
  have answered : answer { asked with start := start, size := size } ix.contents =
      .ok ⟨found.length, (found.drop start).take size⟩ := by
    rw [← window_natCast, contents, held]
    simp only [answer, passes, ordered, bind, Except.bind]
    rfl
  obtain ⟨ix', searched, again⟩ := search_healthy healthy answered
  rw [held] at again
  exact ⟨ix', searched, again⟩

/-- Both loops over pages read an index that does not change in full, whatever the size of their pages;
zero stands for the page size of the query. The scan ends with the first of the documents found, as
many as there are or as it is capped at; the collection ends with the identifiers of all of them, if it has
more rounds than there are documents. It is not the number of rounds that ends the one or the other.
Of an index that holds documents this is so for those that pass the clauses of the query, in the order
that it asks for; and where the query has no sort directive, as in a deletion, a collection with two
rounds more than there are documents is not cut short whatever state the index is in. Where documents
have identifiers, just these are collected, one for each document. -/
theorem unchanging_readsInFull (written : q.body = .ok asked) (placed : 1 ≤ q.perPage) :
    (∀ {σ : Type} (search : SearchBody → Act σ Hits) (found : List Fields) (Ready : σ → Prop),
      Unchanging search asked found Ready → ReadsInFull search q found Ready) ∧
    (∀ (documents : List (String × Fields)) (passed found : List Fields),
      SearchIndex.passing q.clauses (documents.map (·.2)) = .ok passed →
      SearchIndex.sorted asked.sort passed = .ok found →
      ReadsInFull SearchIndex.search q found (SearchIndex.Holding documents)) ∧
    (q.sortPlan = .ok none → ∀ (pageSize : Int) (ix : SearchIndex) (more : Nat),
      collectIds SearchIndex.search q pageSize (ix.documents.length + 2 + more) ix =
        collectIds SearchIndex.search q pageSize (ix.documents.length + 2) ix) ∧
    ∀ (found : List Fields) (ids : List String),
      List.Forall₂ HasId found ids → documentIds found = ids := by
  refine ⟨fun search found Ready unchanging => unchanging.readsInFull written placed, ?_,
    SearchIndex.collectIds_rounds, fun found ids named => documentIds_eq named⟩
  intro documents passed found passes ordered
  rw [← (IndexQuery.body_windows written).1] at passes
  exact (SearchIndex.unchanging passes ordered).readsInFull written placed

/-- The document of a log of a project. -/
def documentIn (project id : String) : Fields :=
  documentOf { SearchParams.namedHostLog with id := id, projectId := project }.toFields

/-- The documents of three logs of a shop, and of a log of another project among them. -/
def shopDocuments : List (String × Fields) :=
  [("log-1", documentIn "shop" "log-1"), ("log-2", documentIn "depot" "log-2"),
    ("log-3", documentIn "shop" "log-3"), ("log-4", documentIn "shop" "log-4")]

/-- The query for a word in the messages of the shop, on pages of two documents. -/
def shopTimeouts : IndexQuery where
  text := "*TIMEOUT*"
  textFields := ["message"]
  equal := [("project_id", .str "shop")]
  perPage := 2
  textFilter := some ⟨.message, ⟨.and, [⟨"TIMEOUT", .anywhere⟩]⟩⟩

/-- An index that answers every request from one list, whatever the request asks for. -/
def rankedIndex (ranking : List Fields) (body : SearchBody) : Act Nat Hits :=
  fun n => (.ok ⟨ranking.length, window ranking body.start (body.start + body.size)⟩, n + 1)

/-- On pages of the size of the query two of the three documents of the shop are scanned and all three
collected; from an index that lists them by rank the best two are scanned, with the cap inside a
page. -/
theorem unchanging_readsInFull_shopTimeouts :
    let ids := ["log-1", "log-3", "log-4"]
    let found := ids.map (documentIn "shop")
    (∃ asked, shopTimeouts.body = .ok asked) ∧ 1 ≤ shopTimeouts.perPage ∧
      SearchIndex.passing shopTimeouts.clauses (shopDocuments.map (·.2)) = .ok found ∧
      (∃ ix, candidates SearchIndex.search shopTimeouts ⟨0, 2⟩ { documents := shopDocuments } =
        (.ok (found.take 2), ix)) ∧
      (∃ ix, collectIds SearchIndex.search shopTimeouts 0 4 { documents := shopDocuments } =
        (.ok ids, ix)) ∧
      ∃ n, candidates (rankedIndex found.reverse) shopTimeouts ⟨3, 2⟩ 0 =
        (.ok (found.reverse.take 2), n) := by
  intro ids found
  have written : shopTimeouts.body = .ok {
      text := some ⟨"*TIMEOUT*", ["message"], false⟩
      clauses := shopTimeouts.clauses
      start := 0
      size := 2 } := rfl
  have passes : SearchIndex.passing shopTimeouts.clauses (shopDocuments.map (·.2)) = .ok found := by
    decide +kernel
  have filled : ∀ id ∈ ids, id ≠ "" := by decide
  have named : List.Forall₂ HasId found ids := by
    rw [List.forall₂_map_left_iff, List.forall₂_same]
    exact fun id mem => ⟨rfl, filled id mem⟩
  obtain ⟨general, held, -, listed⟩ :=
    unchanging_readsInFull written (show 1 ≤ shopTimeouts.perPage by decide)
  have kept := held shopDocuments found found passes rfl
  have ranked := general (rankedIndex found.reverse) found.reverse (fun _ => True)
    fun n _ start size => ⟨n + 1, by rw [← window_natCast]; rfl, trivial⟩
  have ready : SearchIndex.Holding shopDocuments { documents := shopDocuments } :=
    ⟨⟨rfl, fun _ _ => rfl⟩, rfl⟩
  obtain ⟨ix, scanned, -⟩ := kept.scanned ⟨0, 2⟩ (by decide) _ ready
  obtain ⟨ix', collected, -⟩ := kept.collected 0 (by decide) 4 (by decide) _ ready
  obtain ⟨n, best, -⟩ := ranked.scanned ⟨3, 2⟩ (by decide) 0 trivial
  rw [listed found ids named] at collected
  exact ⟨⟨_, written⟩, by decide, passes, ⟨ix, scanned⟩, ⟨ix', collected⟩, n, best⟩

end Logbook

import Logbook.Proofs.Keyed
import Logbook.Proofs.Query.Clauses
import Logbook.Proofs.Query.Scan

/-!
# A healthy index

A healthy index is connected and no call of it fails. Then a search is answered from the documents
alone and leaves them as they are, a document is put under the identifier of its log, and a deletion
of a query removes the documents that were found. `SearchIndex.serves_healthy` is what the loops
over pages need to know about it.
-/

namespace Logbook

/-- A query that is not sorted has a request for each page, for the window of the page. -/
theorem IndexQuery.exists_unsorted {q : IndexQuery} (unsorted : q.sortPlan = .ok none)
    (page perPage : Option Int) : ∃ body, q.body page perPage = .ok body ∧
      body.clauses = q.clauses ∧ body.sort = none ∧
      body.start = (orPage page q.page - 1) * orPage perPage q.perPage ∧
      body.size = orPage perPage q.perPage := by
  rw [q.body_eq, unsorted]
  exact ⟨_, rfl, rfl, rfl, rfl, rfl⟩

namespace SearchIndex

/-- Connected, and no call fails. -/
structure Healthy (ix : SearchIndex) : Prop where
  connected : ix.isOpen = true
  steady : ∀ n c, ix.outage n c = none

/-- A healthy index that holds these documents. -/
def Holding (documents : List (String × Fields)) (ix : SearchIndex) : Prop :=
  ix.Healthy ∧ ix.documents = documents

/-- Where each document has a verdict, those that satisfy the clauses pass. -/
theorem passing_of_verdicts {clauses : List Clause} {docs : List Fields}
    (verdict : ∀ doc ∈ docs, ∃ b, Clause.acceptsAll doc clauses = .ok b) :
    passing clauses docs =
      .ok (docs.filter fun doc => Clause.acceptsAll doc clauses = .ok true) := by
  induction docs with
  | nil => rfl
  | cons doc r ih =>
    obtain ⟨b, kept⟩ := verdict doc List.mem_cons_self
    have rest := ih fun d mem => verdict d (List.mem_cons_of_mem doc mem)
    simp only [passing, kept, rest, List.filter_cons]
    cases b <;> rfl

/-- Where clauses have a verdict on each document, those that they accept pass. -/
theorem passing_map {α : Type} {clauses : List Clause} (fields : α → Fields) (test : α → Bool)
    (verdict : ∀ a, Clause.acceptsAll (fields a) clauses = .ok (test a)) (xs : List α) :
    passing clauses (xs.map fields) = .ok ((xs.filter test).map fields) := by
  have verdicts : ∀ doc ∈ xs.map fields, ∃ b, Clause.acceptsAll doc clauses = .ok b := by
    intro doc mem
    obtain ⟨a, -, rfl⟩ := List.mem_map.1 mem
    exact ⟨test a, verdict a⟩
  have accepts (a : α) : decide (Clause.acceptsAll (fields a) clauses = .ok true) = test a := by
    simp [verdict]
  rw [passing_of_verdicts verdicts, List.filter_map]
  simp only [Function.comp_def, accepts]

/-- The documents that pass are those that satisfy the clauses. -/
theorem eq_filter_of_passing {clauses : List Clause} {docs found : List Fields}
    (passed : passing clauses docs = .ok found) :
    found = docs.filter fun doc => Clause.acceptsAll doc clauses = .ok true := by
  induction docs generalizing found with
  | nil =>
    cases passed
    rfl
  | cons doc r ih =>
    unfold passing at passed
    cases kept : Clause.acceptsAll doc clauses with
    | error f =>
      rw [kept] at passed
      cases passed
    | ok keep =>
      cases others : passing clauses r with
      | error f =>
        rw [kept, others] at passed
        cases passed
      | ok rest =>
        rw [kept, others] at passed
        cases passed
        rw [List.filter_cons, kept, ← ih others]
        cases keep <;> rfl

/-- The answer to a search that asks for no order: the window of what passes, as it comes. -/
theorem answer_unsorted {body : SearchBody} {documents found : List Fields}
    (unsorted : body.sort = none) (passed : passing body.clauses documents = .ok found) :
    answer body documents =
      .ok ⟨found.length, window found body.start (body.start + body.size)⟩ := by
  unfold answer
  rw [passed, unsorted]
  rfl

/-- No document is under none of the keys. -/
theorem filter_notMem_nil (documents : List (String × Fields)) :
    documents.filter (fun d => d.1 ∉ ([] : List String)) = documents :=
  List.filter_eq_self.2 fun _ _ => by simp

/-- What is left under none of some keys after one more is erased. -/
theorem filter_notMem_erase (id : String) (ids : List String) (documents : List (String × Fields)) :
    (Keyed.erase id documents).filter (fun d => d.1 ∉ ids) =
      documents.filter fun d => d.1 ∉ id :: ids := by
  rw [Keyed.erase, List.filter_filter]
  congr 1
  funext d
  simp [Bool.and_comm]

section Calls

variable {ix : SearchIndex}

/-- An open index lets an action go on. -/
theorem require_of_open (connected : ix.isOpen = true) : require ix = (.ok (), ix) := by
  simp [require, Act.bind_apply, connected]

/-- A call that does not fail is counted. -/
theorem call_of_none {c : IndexCall} (well : ix.outage ix.calls c = none) :
    call c ix = (.ok (), { ix with calls := ix.calls + 1 }) := by
  simp [call, Act.bind_apply, well]

/-- A healthy index answers a search if its documents do, and changes nothing but its records of
calls. -/
theorem search_healthy (h : ix.Healthy) {body : SearchBody} {hits : Hits}
    (answered : answer body ix.contents = .ok hits) :
    ∃ ix', search body ix = (.ok hits, ix') ∧ Holding ix.documents ix' := by
  refine ⟨{ ix with calls := ix.calls + 1, received := body.toJson :: ix.received }, ?_,
    ⟨h.connected, h.steady⟩, rfl⟩
  unfold search searchAs
  rw [Act.bind_of_ok (require_of_open h.connected)]
  refine Act.tryCatch_of_ok ?_ _
  rw [Act.bind_of_ok (call_of_none (h.steady _ .search))]
  have same : contents { ix with calls := ix.calls + 1, received := body.toJson :: ix.received } =
      ix.contents := rfl
  simp [Act.bind_apply, same, answered]

/-- The document of a log is put under the identifier of the log. -/
theorem put_healthy (h : ix.Healthy) {log : Fields} {id : String} (named : log.get "id" = .str id) :
    Holding (Keyed.put id (documentOf log) ix.documents) (put log ix).2 := by
  have key : ((documentOf log).get "id").display = id := by
    rw [get_documentOf log (by decide), named]
    rfl
  have tried : explaining (.notIndexed id) (call .put) ix =
      (.ok (), { ix with calls := ix.calls + 1 }) :=
    Act.tryCatch_of_ok (call_of_none (h.steady _ .put)) _
  unfold put
  simp only [Act.bind_of_ok (require_of_open h.connected), key, Act.bind_of_ok tried, Act.modify_apply]
  exact ⟨⟨h.connected, h.steady⟩, rfl⟩

/-- A deletion removes what is under the key. -/
theorem erase_healthy (h : ix.Healthy) (id : String) :
    ∃ found ix', erase id ix = (.ok found, ix') ∧ Holding (Keyed.erase id ix.documents) ix' := by
  refine ⟨(ix.documents.lookup id).isSome,
    { ix with calls := ix.calls + 1, documents := Keyed.erase id ix.documents }, ?_,
    ⟨h.connected, h.steady⟩, rfl⟩
  unfold erase
  rw [Act.bind_of_ok (require_of_open h.connected), Act.bind_of_ok (call_of_none (h.steady _ .erase))]
  simp [Act.bind_apply, Except.map]

/-- Deletions one by one leave what is under none of the keys. -/
theorem eraseEach_healthy (ids : List String) (h : ix.Healthy) :
    Holding (ix.documents.filter fun d => d.1 ∉ ids) (eraseEach ids ix).2 := by
  induction ids generalizing ix with
  | nil =>
    exact ⟨h, (filter_notMem_nil ix.documents).symm⟩
  | cons id r ih =>
    obtain ⟨found, ix', erased, healthy, left⟩ := erase_healthy h id
    have after := ih healthy
    rw [left, filter_notMem_erase] at after
    unfold eraseEach
    cases found <;> simpa only [erased] using after

end Calls

/-- What a healthy index serves for a query without a sort directive. -/
theorem serves_healthy {α : Type} {q : IndexQuery} (unsorted : q.sortPlan = .ok none)
    (fields : α → Fields) (test : α → Bool)
    (verdict : ∀ a, Clause.acceptsAll (fields a) q.clauses = .ok (test a)) (xs : List α)
    {documents : List (String × Fields)} (contents : documents.map (·.2) = xs.map fields) :
    Serves search q ((xs.filter test).map fields) (Holding documents) := by
  rintro ix ⟨healthy, held⟩ page perPage
  obtain ⟨body, written, clauses, sort, start, size⟩ := q.exists_unsorted unsorted page perPage
  have passed : passing body.clauses ix.contents = .ok ((xs.filter test).map fields) := by
    rw [clauses, SearchIndex.contents, held, contents, passing_map fields test verdict]
  obtain ⟨ix', searched, again⟩ := search_healthy healthy (answer_unsorted sort passed)
  rw [held] at again
  rw [start, size] at searched
  exact ⟨body, ix', written, searched, again⟩

/-- A deletion removes the documents whose keys are those of the documents found. -/
theorem eraseFound_healthy {q : IndexQuery} {found : List Fields} {ix : SearchIndex}
    (healthy : ix.Healthy) (serves : Serves search q found (Holding ix.documents))
    {pageSize : Int} (given : 0 ≤ pageSize) (pos : 1 ≤ q.perPage)
    (within : found.length ≤ ix.documents.length) :
    Holding (ix.documents.filter fun d => d.1 ∉ documentIds found) (eraseFound q pageSize ix).2 := by
  obtain ⟨ix', collected, again, held⟩ :=
    collectIds_serves serves given pos (show found.length < ix.documents.length + 2 by omega)
      ⟨healthy, rfl⟩
  have left := eraseEach_healthy (documentIds found) again
  rw [held] at left
  unfold eraseFound
  simpa only [if_pos healthy.connected, collected] using left

end SearchIndex

end Logbook

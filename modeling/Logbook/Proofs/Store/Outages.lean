import Logbook.Proofs.Query.Order
import Logbook.Proofs.Store.Index

/-!
# An index in any state

The index may be closed and any of its calls may fail, each in its own way. A search that is
answered all the same is answered from the documents, and only a deletion that succeeds changes
these (`SearchIndex.search_cases`, `SearchIndex.erase_cases`). So whatever fails, a deletion of a
query removes no other documents than those that the query finds (`SearchIndex.eraseFound_cases`),
and its loop over the pages is not cut short (`SearchIndex.collectIds_rounds`).
-/

namespace Logbook

namespace SearchIndex

variable {q : IndexQuery} {found : List Fields} {documents : List (String × Fields)}

section Calls

variable {ix : SearchIndex}

theorem require_of_closed (closed : ix.isOpen = false) :
    require ix = (.error (.problem .indexClosed), ix) := by
  simp [require, Act.bind_apply, closed]

/-- A call fails as the outage says. -/
theorem call_of_some {c : IndexCall} {f : Fault} (fault : ix.outage ix.calls c = some f) :
    call c ix = (.error f, { ix with calls := ix.calls + 1 }) := by
  simp [call, Act.bind_apply, fault]

theorem explaining_apply {α : Type} (p : Problem) (a : Act SearchIndex α) (ix : SearchIndex) :
    explaining p a ix = ((a ix).1.mapError (explained p), (a ix).2) := by
  rcases ran : a ix with ⟨f | x, ix'⟩
  · exact Act.tryCatch_of_error ran _
  · exact Act.tryCatch_of_ok ran _

/-- An index after some more searches: but for its records of calls it is as it was. -/
def Asked (ix ix' : SearchIndex) : Prop :=
  ∃ calls received, ix' = { ix with calls := calls, received := received }

theorem Asked.documents_eq {ix' : SearchIndex} (asked : ix.Asked ix') :
    ix'.documents = ix.documents := by
  obtain ⟨calls, received, rfl⟩ := asked
  rfl

theorem Asked.trans {ix' ix'' : SearchIndex} (first : ix.Asked ix') (second : ix'.Asked ix'') :
    ix.Asked ix'' := by
  obtain ⟨_, _, rfl⟩ := first
  obtain ⟨calls, received, rfl⟩ := second
  exact ⟨calls, received, rfl⟩

/-- A search fails, or it is answered from the documents; in either case it leaves nothing but a
record of itself. -/
theorem search_cases (body : SearchBody) (ix : SearchIndex) :
    ∃ ix', ((∃ f, search body ix = (.error f, ix')) ∨
        ∃ hits, search body ix = (.ok hits, ix') ∧ answer body ix.contents = .ok hits) ∧
      ix.Asked ix' := by
  unfold search searchAs
  cases connected : ix.isOpen with
  | false =>
    rw [Act.bind_of_error (require_of_closed connected)]
    exact ⟨ix, .inl ⟨_, rfl⟩, _, _, rfl⟩
  | true =>
    rw [Act.bind_of_ok (require_of_open connected), explaining_apply]
    cases fault : ix.outage ix.calls .search with
    | some f =>
      rw [Act.bind_of_error (call_of_some fault)]
      exact ⟨_, .inl ⟨_, rfl⟩, _, _, rfl⟩
    | none =>
      rw [Act.bind_of_ok (call_of_none fault)]
      have read : contents { ix with
          calls := ix.calls + 1, received := body.toJson :: ix.received } = ix.contents := rfl
      simp only [Act.bind_apply, Act.modify_apply, Act.ofExcept_ok, Act.get_apply, read]
      cases answered : answer body ix.contents with
      | error f => exact ⟨_, .inl ⟨_, rfl⟩, _, _, rfl⟩
      | ok hits => exact ⟨_, .inr ⟨hits, rfl, rfl⟩, _, _, rfl⟩

theorem search_keeps (body : SearchBody) : (search body).Keeps ix.Asked := by
  intro ix' before
  obtain ⟨ix'', ⟨f, ran⟩ | ⟨hits, ran, -⟩, asked⟩ := search_cases body ix'
  · rw [ran]
    exact before.trans asked
  · rw [ran]
    exact before.trans asked

/-- A deletion fails and leaves the documents, or it removes what is under its key. -/
theorem erase_cases (id : String) (ix : SearchIndex) :
    (∃ f ix', erase id ix = (.error f, ix') ∧ ix'.documents = ix.documents) ∨
      ∃ found ix', erase id ix = (.ok found, ix') ∧
        ix'.documents = Keyed.erase id ix.documents := by
  unfold erase
  cases connected : ix.isOpen with
  | false =>
    rw [Act.bind_of_error (require_of_closed connected)]
    exact .inl ⟨_, ix, rfl, rfl⟩
  | true =>
    rw [Act.bind_of_ok (require_of_open connected)]
    cases fault : ix.outage ix.calls .erase with
    | some f =>
      rw [Act.bind_of_error (call_of_some fault)]
      exact .inl ⟨f, _, rfl, rfl⟩
    | none =>
      rw [Act.bind_of_ok (call_of_none fault)]
      exact .inr ⟨_, _, rfl, rfl⟩

/-- Deletions one by one leave what is under none of some of the keys: those whose deletion
succeeded. -/
theorem eraseEach_cases (ids : List String) (ix : SearchIndex) :
    ∃ gone, gone ⊆ ids ∧
      (eraseEach ids ix).2.documents = ix.documents.filter fun d => d.1 ∉ gone := by
  induction ids generalizing ix with
  | nil =>
    exact ⟨[], List.Subset.refl _, (filter_notMem_nil ix.documents).symm⟩
  | cons id r ih =>
    rcases erase_cases id ix with ⟨f, ix', failed, same⟩ | ⟨found, ix', erased, left⟩
    · obtain ⟨gone, among, rest⟩ := ih ix'
      refine ⟨gone, fun _ mem => List.mem_cons_of_mem id (among mem), ?_⟩
      rw [same] at rest
      simpa only [eraseEach, failed] using rest
    · obtain ⟨gone, among, rest⟩ := ih ix'
      refine ⟨id :: gone, List.cons_subset_cons id among, ?_⟩
      rw [left, filter_notMem_erase] at rest
      unfold eraseEach
      cases found <;> simpa only [erased] using rest

end Calls

/-- No search is let through, or each is answered from the documents. -/
theorem search_through (ix : SearchIndex) :
    (∃ f, ∀ body, (search body ix).1 = .error f) ∨
      ∀ body, (search body ix).1 =
        (answer body ix.contents).mapError (explained .indexQueryFailed) := by
  unfold search searchAs
  cases connected : ix.isOpen with
  | false =>
    refine .inl ⟨.problem .indexClosed, fun body => ?_⟩
    rw [Act.bind_of_error (require_of_closed connected)]
  | true =>
    cases fault : ix.outage ix.calls .search with
    | some f =>
      refine .inl ⟨explained .indexQueryFailed f, fun body => ?_⟩
      rw [Act.bind_of_ok (require_of_open connected), explaining_apply,
        Act.bind_of_error (call_of_some fault)]
      rfl
    | none =>
      refine .inr fun body => ?_
      have read : contents { ix with
          calls := ix.calls + 1, received := body.toJson :: ix.received } = ix.contents := rfl
      rw [Act.bind_of_ok (require_of_open connected), explaining_apply,
        Act.bind_of_ok (call_of_none fault)]
      simp only [Act.bind_apply, Act.modify_apply, Act.ofExcept_ok, Act.get_apply, read]
      cases answer body ix.contents <;> rfl

/-- Searches that differ in their windows alone end alike, or they are answered with windows of one
list: the documents that satisfy the clauses, in some order. -/
theorem search_windows (ix : SearchIndex) (clauses : List Clause)
    (sort : Option (String × String)) :
    ∃ found : Except Fault (List Fields),
      (∀ body : SearchBody, body.clauses = clauses → body.sort = sort → (search body ix).1 =
        found.map fun docs => ⟨docs.length, window docs body.start (body.start + body.size)⟩) ∧
      ∀ docs, found = .ok docs →
        docs.Perm (ix.contents.filter fun doc => Clause.acceptsAll doc clauses = .ok true) := by
  rcases search_through ix with ⟨f, refused⟩ | through
  · exact ⟨.error f, fun body _ _ => refused body, nofun⟩
  · cases passed : passing clauses ix.contents with
    | error f =>
      refine ⟨.error (explained .indexQueryFailed f), ?_, nofun⟩
      rintro body rfl rfl
      rw [through, answer, passed]
      rfl
    | ok docs =>
      cases ordered : sorted sort docs with
      | error f =>
        refine ⟨.error (explained .indexQueryFailed f), ?_, nofun⟩
        rintro body rfl rfl
        simp only [through, answer, passed, ordered, bind, Except.bind]
        rfl
      | ok found =>
        refine ⟨.ok found, ?_, ?_⟩
        · rintro body rfl rfl
          simp only [through, answer, passed, ordered, bind, Except.bind]
          rfl
        · rintro _ ⟨⟩
          rw [← eq_filter_of_passing passed]
          exact sorted_perm ordered

/-- No more documents pass than there are. -/
theorem length_passing_le {clauses : List Clause} {docs : List Fields}
    (passed : passing clauses docs = .ok found) : found.length ≤ docs.length := by
  rw [eq_filter_of_passing passed]
  exact List.length_filter_le _ docs

/-- What the index may serve for a query without a sort directive: the documents that pass its
clauses. -/
theorem mayServe (unsorted : q.sortPlan = .ok none)
    (passed : ∀ docs, passing q.clauses (documents.map (·.2)) = .ok docs → docs = found) :
    MayServe search q found (·.documents = documents) := by
  rintro ix rfl page perPage body written
  obtain ⟨body', written', clauses, sort, start, size⟩ := q.exists_unsorted unsorted page perPage
  rw [written] at written'
  cases written'
  obtain ⟨ix', ⟨f, failed⟩ | ⟨hits, searched, answered⟩, asked⟩ := search_cases body ix
  · rw [failed]
    exact ⟨asked.documents_eq, fun _ done => by cases done⟩
  · rw [searched]
    refine ⟨asked.documents_eq, ?_⟩
    rintro _ ⟨⟩
    cases passes : passing body.clauses ix.contents with
    | error f =>
      rw [answer, passes] at answered
      cases answered
    | ok docs =>
      rw [answer_unsorted sort passes] at answered
      cases answered
      rw [passed docs (clauses ▸ passes), start, size]
      rfl

/-- However many documents are found, the rounds of a deletion are enough to collect them. -/
theorem collectIds_rounds (unsorted : q.sortPlan = .ok none) (pageSize : Int) (ix : SearchIndex)
    (more : Nat) : collectIds search q pageSize (ix.documents.length + 2 + more) ix =
      collectIds search q pageSize (ix.documents.length + 2) ix := by
  cases passes : passing q.clauses (ix.documents.map (·.2)) with
  | error f =>
    have serves : MayServe search q [] (·.documents = ix.documents) :=
      mayServe unsorted fun docs passed => by
        rw [passes] at passed
        cases passed
    exact collectIds_add_fuel serves (by simp) more rfl
  | ok docs =>
    have serves : MayServe search q docs (·.documents = ix.documents) :=
      mayServe unsorted fun docs' passed => by
        rw [passes] at passed
        cases passed
        rfl
    have few := length_passing_le passes
    rw [List.length_map] at few
    exact collectIds_add_fuel serves (by omega) more rfl

/-- Whatever fails, a deletion leaves all documents but some of those that its query finds. -/
theorem eraseFound_cases (unsorted : q.sortPlan = .ok none) (pageSize : Int) {ix : SearchIndex}
    (passed : passing q.clauses (ix.documents.map (·.2)) = .ok found) :
    ∃ gone, gone ⊆ documentIds found ∧
      (eraseFound q pageSize ix).2.documents = ix.documents.filter fun d => d.1 ∉ gone := by
  have all := (filter_notMem_nil ix.documents).symm
  have serves : MayServe search q found (·.documents = ix.documents) :=
    mayServe unsorted fun docs passed' => by
      rw [passed] at passed'
      cases passed'
      rfl
  unfold eraseFound
  cases ix.isOpen with
  | false => exact ⟨[], List.nil_subset _, all⟩
  | true =>
    obtain ⟨same, collected⟩ := collectIds_mayServe serves pageSize (ix.documents.length + 2) rfl
    rw [if_pos rfl]
    rcases ran : collectIds search q pageSize (ix.documents.length + 2) ix with ⟨f | ids, ix'⟩
    · rw [ran] at same
      exact ⟨[], List.nil_subset _, same.trans all⟩
    · rw [ran] at same collected
      obtain ⟨gone, among, left⟩ := eraseEach_cases ids ix'
      refine ⟨gone, fun _ mem => collected ids rfl (among mem), ?_⟩
      rw [left, same]

end SearchIndex

end Logbook

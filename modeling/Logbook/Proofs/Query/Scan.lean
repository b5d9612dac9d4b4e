import Logbook.Proofs.Act
import Logbook.Proofs.Query.Page
import Logbook.Query.Answer

/-!
# Reading all pages of a query

Both loops over the pages of a query, the one that scans candidates and the one that collects
documents to delete, are about a search that serves one list (`Serves`): each page is answered with
the window of the list and the length of the list. They ask for the pages one by one and need no
others to be served (`ServesPages`). A round adds what is answered, and ends or goes on
(`candidatesFrom_round`, `collectFrom_round`). After `k` pages the loop holds what stands on them,
which is a beginning of the list; that is the invariant of both. The first loop ends with as much of
the list as is wanted (`candidates_pages`), the second with all of it (`collectIds_pages`). From a
search that may fail (`MayServe`) the second loop collects no more than the list
(`collectIds_mayServe`). Both end by themselves, not because they run out of rounds
(`candidatesFrom_add_fuel`, `collectIds_add_fuel`).
-/

namespace Logbook

variable {σ : Type} {search : SearchBody → Act σ Hits} {q : IndexQuery} {found : List Fields}
  {Ready : σ → Prop}

/-- From a state that is ready, each page of a query is answered with its window of `found`, and
the state that is left behind is ready again. -/
def Serves (search : SearchBody → Act σ Hits) (q : IndexQuery) (found : List Fields)
    (Ready : σ → Prop) : Prop :=
  ∀ s, Ready s → ∀ page perPage, ∃ body s', q.body page perPage = .ok body ∧
    search body s =
      (.ok ⟨found.length, pageOf found (orPage page q.page) (orPage perPage q.perPage)⟩, s') ∧
    Ready s'

theorem orPage_some (n other : Int) : orPage (some n) other = if n = 0 then other else n := by
  unfold orPage
  rw [Option.filter_some]
  by_cases zero : n = 0 <;> simp [zero]

/-- A page size of zero stands for that of the query, so every page has places. -/
theorem exists_pageSize {size perPage : Int} (given : 0 ≤ size) (pos : 1 ≤ perPage) :
    ∃ n : Nat, orPage (some size) perPage = n ∧ 0 < n ∧ size ≤ n := by
  refine ⟨(orPage (some size) perPage).toNat, ?_⟩
  rw [orPage_some]
  split <;> omega

/-- From a state that is ready, each page of a query is answered with its window of `found`, of
`size` places where pages of size `pageSize` are asked for, and the state that is left behind is
ready again. -/
def ServesPages (search : SearchBody → Act σ Hits) (q : IndexQuery) (found : List Fields)
    (pageSize : Int) (size : Nat) (Ready : σ → Prop) : Prop :=
  ∀ s, Ready s → ∀ k : Nat, ∃ body s', q.body (some (k + 1)) (some pageSize) = .ok body ∧
    search body s = (.ok ⟨found.length, pageOf found (k + 1) size⟩, s') ∧ Ready s'

section Pages

variable {pageSize : Int} {size : Nat}

/-- What is served whatever is asked for is served page by page. -/
theorem Serves.pages (serves : Serves search q found Ready)
    (sized : orPage (some pageSize) q.perPage = size) :
    ServesPages search q found pageSize size Ready := by
  intro s ready k
  obtain ⟨body, s', written, answered, again⟩ := serves s ready (some (k + 1)) (some pageSize)
  rw [orPage_some, if_neg (by omega), sized] at answered
  exact ⟨body, s', written, answered, again⟩

/-- A loop ends with the last page: what stands on the pages so far is the whole list. -/
theorem take_of_last_page (pos : 0 < size) (within : pageSize ≤ size) {k : Nat}
    (last : (pageOf found (k + 1) size).isEmpty = true ∨
      (found.length : Int) ≤ (k + 1 : Int) * pageSize) :
    found.take ((k + 1) * size) = found := by
  apply List.take_of_length_le
  rcases last with empty | behind
  · have before := length_le_of_page_nil pos (List.isEmpty_iff.1 empty)
    rw [Nat.add_mul]
    omega
  · have wider : (k + 1 : Int) * pageSize ≤ ((k + 1) * size : Nat) := by
      push_cast
      exact Int.mul_le_mul_of_nonneg_left within (by omega)
    omega

/-- A page with something on it brings the loop further. -/
theorem length_take_lt {k : Nat} (filled : (pageOf found (k + 1) size).isEmpty = false) :
    (found.take (k * size)).length < (found.take ((k + 1) * size)).length := by
  have length := congrArg List.length (take_append_page found k size)
  have more := List.length_pos_iff.2 (List.isEmpty_eq_false_iff.1 filled)
  rw [List.length_append] at length
  omega

/-- A beginning of the list that is long enough holds what is wanted of it. -/
theorem take_of_held {wanted n : Nat} (held : wanted ≤ (found.take n).length) :
    (found.take n).take wanted = found.take wanted := by
  rw [List.length_take] at held
  rw [List.take_take, Nat.min_eq_left (by omega)]

end Pages

/-- The scan asks for each of its pages by number, so the page of its query plays no part. -/
theorem candidatesFrom_page (search : SearchBody → Act σ Hits) (q : IndexQuery)
    (limits : ScanLimits) (n : Int) (fuel : Nat) {page : Int} (first : 1 ≤ page)
    (found : List Fields) :
    candidatesFrom search { q with page := n } limits fuel page found =
      candidatesFrom search q limits fuel page found := by
  induction fuel generalizing page found with
  | zero => rfl
  | succ fuel ih =>
    have asked : ({ q with page := n } : IndexQuery).body (some page) (some limits.pageSize) =
        q.body (some page) (some limits.pageSize) := by
      unfold IndexQuery.body
      simp only [orPage_some, if_neg (show page ≠ 0 by omega)]
      rfl
    have rest (found : List Fields) := ih (show 1 ≤ page + 1 by omega) found
    simp only [candidatesFrom, asked, rest]

theorem candidates_page (search : SearchBody → Act σ Hits) (q : IndexQuery) (limits : ScanLimits)
    (n : Int) : candidates search { q with page := n } limits = candidates search q limits := by
  unfold candidates
  rw [candidatesFrom_page search q limits n _ (Int.le_refl 1)]

/-- A scan that has come to its cap ends there, whatever rounds are left. -/
theorem candidatesFrom_of_full (search : SearchBody → Act σ Hits) (q : IndexQuery)
    {limits : ScanLimits} {found : List Fields} (full : limits.maxHits ≤ found.length) (fuel : Nat)
    (page : Int) : candidatesFrom search q limits fuel page found = pure found := by
  cases fuel with
  | zero => rfl
  | succ fuel =>
    unfold candidatesFrom
    rw [if_pos full]

/-- One round of the scan adds what is answered, and ends there or goes on. -/
theorem candidatesFrom_round {limits : ScanLimits} {fuel : Nat} {page : Int} {found : List Fields}
    {body : SearchBody} {hits : Hits} {s s' : σ} (short : ¬limits.maxHits ≤ found.length)
    (written : q.body (some page) (some limits.pageSize) = .ok body)
    (answered : search body s = (.ok hits, s')) :
    candidatesFrom search q limits (fuel + 1) page found s =
      if hits.documents.isEmpty || hits.total ≤ page * limits.pageSize then
        (.ok (found ++ hits.documents), s')
      else candidatesFrom search q limits fuel (page + 1) (found ++ hits.documents) s' := by
  rw [candidatesFrom, if_neg short, written, Act.bind_of_ok (Act.ofExcept_ok body s),
    Act.bind_of_ok answered]
  split <;> rfl

/-- One round of the collection adds the identifiers of what is answered, and ends there or goes on. -/
theorem collectFrom_round {pageSize : Int} {fuel : Nat} {page : Int} {ids : List String}
    {body : SearchBody} {hits : Hits} {s s' : σ}
    (written : q.body (some page) (some pageSize) = .ok body)
    (answered : search body s = (.ok hits, s')) :
    collectFrom search q pageSize (fuel + 1) page ids s =
      if hits.documents.isEmpty || hits.total ≤ page * pageSize then
        (.ok (ids ++ documentIds hits.documents), s')
      else collectFrom search q pageSize fuel (page + 1) (ids ++ documentIds hits.documents) s' := by
  rw [collectFrom, written, Act.bind_of_ok (Act.ofExcept_ok body s), Act.bind_of_ok answered]
  split <;> rfl

/-- Every round of the scan but the last brings it nearer to its cap, so it takes no more rounds than
there are items wanted, whatever is answered. -/
theorem candidatesFrom_add_fuel (search : SearchBody → Act σ Hits) (q : IndexQuery)
    (limits : ScanLimits) {fuel : Nat} {page : Int} {found : List Fields}
    (enough : limits.maxHits ≤ (fuel + found.length : Nat)) (more : Nat) :
    candidatesFrom search q limits (fuel + more) page found =
      candidatesFrom search q limits fuel page found := by
  induction fuel generalizing page found with
  | zero =>
    rw [Nat.zero_add] at enough
    rw [candidatesFrom_of_full search q enough, candidatesFrom_of_full search q enough]
  | succ fuel ih =>
    rw [Nat.succ_add]
    unfold candidatesFrom
    split
    · rfl
    · refine bind_congr fun body => bind_congr fun hits => ?_
      dsimp only
      split
      · rfl
      · next goesOn =>
        simp only [Bool.or_eq_true, not_or, Bool.not_eq_true] at goesOn
        have filled := List.length_pos_iff.2 (List.isEmpty_eq_false_iff.1 goesOn.1)
        refine ih ?_
        rw [List.length_append]
        omega

/-- A document has this identifier, and it is not empty. -/
def HasId (doc : Fields) (id : String) : Prop :=
  doc.get "id" = .str id ∧ id ≠ ""

/-- Documents that have identifiers list these, one for each document and in order. -/
theorem documentIds_eq {docs : List Fields} {ids : List String}
    (named : List.Forall₂ HasId docs ids) : documentIds docs = ids := by
  induction named with
  | nil => rfl
  | @cons doc id docs ids first _ ih =>
    obtain ⟨is, filled⟩ := first
    have carries : filledField? doc "id" = some id := by simp [filledField?, is, filled]
    unfold documentIds at ih ⊢
    rw [List.filterMap_cons, carries, ih]

section Loops

variable {limits : ScanLimits} {pageSize : Int} {size : Nat}

/-- From the items on the first `k` pages the scan comes to as much of the list as is wanted, if
`fuel` more pages can bring it there. -/
theorem candidatesFrom_pages (pages : ServesPages search q found limits.pageSize size Ready)
    (pos : 0 < size) (within : limits.pageSize ≤ size) (fuel k : Nat) (s : σ) (ready : Ready s)
    (enough : limits.maxHits.toNat ≤ fuel + (found.take (k * size)).length) :
    ∃ scanned s', candidatesFrom search q limits fuel (k + 1) (found.take (k * size)) s =
        (.ok scanned, s') ∧ Ready s' ∧
      scanned.take limits.maxHits.toNat = found.take limits.maxHits.toNat := by
  induction fuel generalizing k s with
  | zero => exact ⟨_, s, rfl, ready, take_of_held (by omega)⟩
  | succ fuel ih =>
    by_cases full : limits.maxHits ≤ (found.take (k * size)).length
    · rw [candidatesFrom_of_full search q full]
      exact ⟨_, s, rfl, ready, take_of_held (by omega)⟩
    · obtain ⟨body, s', written, answered, again⟩ := pages s ready k
      rw [candidatesFrom_round full written answered, take_append_page]
      split
      · next last =>
        refine ⟨_, s', rfl, again, ?_⟩
        rw [take_of_last_page pos within (by simpa using last)]
      · next more =>
        simp only [Bool.or_eq_true, not_or, Bool.not_eq_true] at more
        have longer := length_take_lt more.1
        exact ih (k + 1) s' again (by omega)

/-- The candidates are the items that are served, as far as they are scanned. -/
theorem candidates_pages (pages : ServesPages search q found limits.pageSize size Ready)
    (pos : 0 < size) (within : limits.pageSize ≤ size) {s : σ} (ready : Ready s) :
    ∃ s', candidates search q limits s = (.ok (found.take limits.maxHits.toNat), s') ∧
      Ready s' := by
  obtain ⟨scanned, s', ran, again, whole⟩ :=
    candidatesFrom_pages pages pos within limits.maxHits.toNat 0 s ready (by simp)
  rw [Nat.zero_mul, List.take_zero, Nat.cast_zero, Int.zero_add] at ran
  refine ⟨s', ?_, again⟩
  rw [candidates, Act.bind_of_ok ran, whole]
  rfl

theorem candidates_serves (serves : Serves search q found Ready) (given : 0 ≤ limits.pageSize)
    (pos : 1 ≤ q.perPage) {s : σ} (ready : Ready s) :
    ∃ s', candidates search q limits s = (.ok (found.take limits.maxHits.toNat), s') ∧
      Ready s' := by
  obtain ⟨size, sized, pos', within⟩ := exists_pageSize given pos
  exact candidates_pages (serves.pages sized) pos' within ready

/-- From the documents on the first `k` pages the collection comes to all of them, if there can be
no more than `fuel` pages left; it comes to no others with more. -/
theorem collectFrom_pages (pages : ServesPages search q found pageSize size Ready) (pos : 0 < size)
    (within : pageSize ≤ size) (fuel k : Nat) (s : σ) (ready : Ready s)
    (enough : found.length < fuel + (found.take (k * size)).length) : ∃ s', Ready s' ∧ ∀ more,
    collectFrom search q pageSize (fuel + more) (k + 1) (documentIds (found.take (k * size))) s =
      (.ok (documentIds found), s') := by
  induction fuel generalizing k s with
  | zero =>
    rw [List.length_take] at enough
    omega
  | succ fuel ih =>
    obtain ⟨body, s', written, answered, again⟩ := pages s ready k
    have joined : documentIds (found.take (k * size)) ++
        documentIds (pageOf found (k + 1) size) = documentIds (found.take ((k + 1) * size)) := by
      rw [← take_append_page, documentIds, documentIds, documentIds, List.filterMap_append]
    simp only [Nat.succ_add, collectFrom_round written answered, joined]
    split
    · next last =>
      refine ⟨s', again, fun _ => ?_⟩
      rw [take_of_last_page pos within (by simpa using last)]
    · next more =>
      simp only [Bool.or_eq_true, not_or, Bool.not_eq_true] at more
      have longer := length_take_lt more.1
      exact ih (k + 1) s' again (by omega)

/-- The identifiers collected are those of all items that are served. -/
theorem collectIds_pages (pages : ServesPages search q found pageSize size Ready) (pos : 0 < size)
    (within : pageSize ≤ size) {fuel : Nat} (enough : found.length < fuel) {s : σ}
    (ready : Ready s) : ∃ s', Ready s' ∧
      ∀ more, collectIds search q pageSize (fuel + more) s = (.ok (documentIds found), s') := by
  have ran := collectFrom_pages pages pos within fuel 0 s ready (by simpa using enough)
  rw [Nat.zero_mul, List.take_zero] at ran
  exact ran

theorem collectIds_serves (serves : Serves search q found Ready) (given : 0 ≤ pageSize)
    (pos : 1 ≤ q.perPage) {fuel : Nat} (enough : found.length < fuel) {s : σ} (ready : Ready s) :
    ∃ s', collectIds search q pageSize fuel s = (.ok (documentIds found), s') ∧ Ready s' := by
  obtain ⟨size, sized, pos', within⟩ := exists_pageSize given pos
  obtain ⟨s', again, ran⟩ := collectIds_pages (serves.pages sized) pos' within enough ready
  exact ⟨s', ran 0, again⟩

end Loops

section Keeps

variable {P : σ → Prop} (kept : ∀ body, (search body).Keeps P)
include kept

/-- The scan of candidates keeps what each search keeps. -/
theorem candidatesFrom_keeps (q : IndexQuery) (limits : ScanLimits) (fuel : Nat) (page : Int)
    (found : List Fields) : (candidatesFrom search q limits fuel page found).Keeps P := by
  induction fuel generalizing page found with
  | zero => exact Act.keeps_pure found
  | succ fuel ih =>
    unfold candidatesFrom
    split
    · exact Act.keeps_pure found
    · refine (Act.keeps_ofExcept _).bind fun body => (kept body).bind fun hits => ?_
      dsimp only
      split
      · exact Act.keeps_pure _
      · exact ih _ _

/-- The answer of an index keeps what each search keeps. -/
theorem searchIndexed_keeps (limits : ScanLimits) (p : SearchParams) :
    (searchIndexed search limits p).Keeps P := by
  refine (Act.keeps_ofExcept _).bind fun q => ?_
  cases q.textFilter with
  | none =>
    refine (Act.keeps_ofExcept _).bind fun body => (kept body).bind fun hits => ?_
    exact Act.keeps_pure _
  | some t =>
    have scan := (candidatesFrom_keeps kept q limits limits.maxHits.toNat 1 []).bind fun found =>
      Act.keeps_pure (found.take limits.maxHits.toNat)
    exact scan.bind fun found => (Act.keeps_ofExcept _).bind fun _ => Act.keeps_pure _

end Keeps

section MayServe

/-- A search that may fail: from a state that is ready, a page of a query is answered with nothing
but its window of `found`, and the state that is left behind is ready again, also after a fault. -/
def MayServe (search : SearchBody → Act σ Hits) (q : IndexQuery) (found : List Fields)
    (Ready : σ → Prop) : Prop :=
  ∀ s, Ready s → ∀ page perPage body, q.body page perPage = .ok body →
    Ready (search body s).2 ∧ ∀ hits, (search body s).1 = .ok hits →
      hits = ⟨found.length, pageOf found (orPage page q.page) (orPage perPage q.perPage)⟩

variable {pageSize : Int}

/-- One round of the collection fails, or it adds what is shown on its page and ends or goes on. -/
theorem MayServe.round (serves : MayServe search q found Ready) (page : Int) (ids : List String)
    {s : σ} (ready : Ready s) :
    (∃ f s', Ready s' ∧ ∀ fuel,
      collectFrom search q pageSize (fuel + 1) page ids s = (.error f, s')) ∨
    ∃ shown s', Ready s' ∧
      shown = pageOf found (orPage (some page) q.page) (orPage (some pageSize) q.perPage) ∧
      ∀ fuel, collectFrom search q pageSize (fuel + 1) page ids s =
        if shown.isEmpty || (found.length : Int) ≤ page * pageSize then
          (.ok (ids ++ documentIds shown), s')
        else collectFrom search q pageSize fuel (page + 1) (ids ++ documentIds shown) s' := by
  cases written : q.body (some page) (some pageSize) with
  | error f =>
    refine .inl ⟨f, s, ready, fun fuel => ?_⟩
    rw [collectFrom, written]
    exact Act.bind_of_error (Act.ofExcept_error f s) _
  | ok body =>
    obtain ⟨again, answered⟩ := serves s ready _ _ body written
    rcases searched : search body s with ⟨f | hits, s'⟩
    · rw [searched] at again
      refine .inl ⟨f, s', again, fun fuel => ?_⟩
      rw [collectFrom, written, Act.bind_of_ok (Act.ofExcept_ok body s)]
      exact Act.bind_of_error searched _
    · rw [searched] at again answered
      refine .inr ⟨_, s', again, rfl, fun fuel => ?_⟩
      rw [collectFrom_round written searched, answered hits rfl]

/-- Whatever fails, the identifiers collected are among those of `found`. -/
theorem collectFrom_mayServe (serves : MayServe search q found Ready) (fuel : Nat) (page : Int)
    {ids : List String} (among : ids ⊆ documentIds found) {s : σ} (ready : Ready s) :
    Ready (collectFrom search q pageSize fuel page ids s).2 ∧
      ∀ ids', (collectFrom search q pageSize fuel page ids s).1 = .ok ids' →
        ids' ⊆ documentIds found := by
  induction fuel generalizing page ids s with
  | zero =>
    refine ⟨ready, ?_⟩
    rintro _ ⟨⟩
    exact among
  | succ fuel ih =>
    rcases serves.round page ids ready with ⟨f, s', again, ran⟩ | ⟨hits, s', again, rfl, ran⟩
    · rw [ran]
      exact ⟨again, fun _ done => by cases done⟩
    · have joined : ids ++ documentIds (pageOf found (orPage (some page) q.page)
          (orPage (some pageSize) q.perPage)) ⊆ documentIds found :=
        List.append_subset.2 ⟨among, List.filterMap_subset _ (pageOf_subset found _ _)⟩
      rw [ran]
      split
      · refine ⟨again, ?_⟩
        rintro _ ⟨⟩
        exact joined
      · exact ih (page + 1) joined again

theorem collectIds_mayServe (serves : MayServe search q found Ready) (pageSize : Int) (fuel : Nat)
    {s : σ} (ready : Ready s) : Ready (collectIds search q pageSize fuel s).2 ∧
      ∀ ids, (collectIds search q pageSize fuel s).1 = .ok ids → ids ⊆ documentIds found :=
  collectFrom_mayServe serves fuel 1 (List.nil_subset _) ready

/-- The collection ends by itself, at the latest with the page behind all items, which is empty;
more fuel changes nothing. -/
theorem collectFrom_add_fuel (serves : MayServe search q found Ready) {fuel : Nat} {page : Int}
    (first : 1 ≤ page) (some_fuel : 1 ≤ fuel) (enough : (found.length : Int) + 1 < page + fuel)
    (more : Nat) (ids : List String) {s : σ} (ready : Ready s) :
    collectFrom search q pageSize (fuel + more) page ids s =
      collectFrom search q pageSize fuel page ids s := by
  induction fuel generalizing page ids s with
  | zero => omega
  | succ fuel ih =>
    rw [Nat.succ_add]
    rcases serves.round page ids ready with ⟨f, s', again, ran⟩ | ⟨hits, s', again, rfl, ran⟩
    · rw [ran, ran]
    · rw [ran, ran]
      split
      · rfl
      · next goesOn =>
        -- the page was not empty, so it is not yet the one behind all items
        have within : ¬(found.length : Int) < page := by
          intro behind
          rw [orPage_some, if_neg (by omega), pageOf_eq_nil _ behind] at goesOn
          simp at goesOn
        exact ih (by omega) (by omega) (by omega) _ again

/-- As many rounds as there are items, and one more, are as good as any number. -/
theorem collectIds_add_fuel (serves : MayServe search q found Ready) {fuel : Nat}
    (enough : found.length < fuel) (more : Nat) {s : σ} (ready : Ready s) :
    collectIds search q pageSize (fuel + more) s = collectIds search q pageSize fuel s :=
  collectFrom_add_fuel serves (by omega) (by omega) (by omega) more [] ready

/-- Reading the page behind `k` others fails, or it is answered with its window. -/
theorem MayServe.page (serves : MayServe search q found Ready) {size : Nat}
    (sized : orPage (some pageSize) q.perPage = size) {s : σ} (ready : Ready s) (k : Nat) :
    (∃ f, q.body (some (k + 1)) (some pageSize) = .error f) ∨
      ∃ body, q.body (some (k + 1)) (some pageSize) = .ok body ∧
        ((∃ f s', search body s = (.error f, s')) ∨
          ∃ s', search body s = (.ok ⟨found.length, pageOf found (k + 1) size⟩, s') ∧ Ready s') := by
  cases written : q.body (some (k + 1)) (some pageSize) with
  | error f => exact .inl ⟨f, rfl⟩
  | ok body =>
    obtain ⟨again, answered⟩ := serves s ready _ _ body written
    refine .inr ⟨body, rfl, ?_⟩
    rcases searched : search body s with ⟨f | hits, s'⟩
    · exact .inl ⟨f, s', rfl⟩
    · rw [searched] at again answered
      have window := answered hits rfl
      rw [orPage_some, if_neg (by omega), sized] at window
      exact .inr ⟨s', by rw [window], again⟩

/-- A scan that is not broken off comes to as much of the list as is wanted, if `fuel` more pages
can bring it there. -/
theorem candidatesFrom_mayServe (serves : MayServe search q found Ready) {limits : ScanLimits}
    {size : Nat} (sized : orPage (some limits.pageSize) q.perPage = size) (pos : 0 < size)
    (within : limits.pageSize ≤ size) (fuel k : Nat) {s : σ} (ready : Ready s)
    (enough : limits.maxHits.toNat ≤ fuel + (found.take (k * size)).length) {scanned : List Fields}
    (ran : (candidatesFrom search q limits fuel (k + 1) (found.take (k * size)) s).1 =
      .ok scanned) : scanned.take limits.maxHits.toNat = found.take limits.maxHits.toNat := by
  induction fuel generalizing k s with
  | zero =>
    cases ran
    exact take_of_held (by omega)
  | succ fuel ih =>
    by_cases full : limits.maxHits ≤ (found.take (k * size)).length
    · rw [candidatesFrom_of_full search q full] at ran
      cases ran
      exact take_of_held (by omega)
    · rcases serves.page sized ready k with
        ⟨f, unwritten⟩ | ⟨body, written, ⟨f, s', failed⟩ | ⟨s', answered, again⟩⟩
      · rw [candidatesFrom, if_neg full, unwritten,
          Act.bind_of_error (Act.ofExcept_error f s)] at ran
        cases ran
      · rw [candidatesFrom, if_neg full, written, Act.bind_of_ok (Act.ofExcept_ok body s),
          Act.bind_of_error failed] at ran
        cases ran
      · rw [candidatesFrom_round full written answered, take_append_page] at ran
        split at ran
        · next last =>
          cases ran
          rw [take_of_last_page pos within (by simpa using last)]
        · next more =>
          simp only [Bool.or_eq_true, not_or, Bool.not_eq_true] at more
          have longer := length_take_lt more.1
          exact ih (k + 1) again (by omega) ran

/-- The candidates of a scan that is not broken off are the items, as far as they are scanned. -/
theorem candidates_mayServe (serves : MayServe search q found Ready) {limits : ScanLimits}
    (given : 0 ≤ limits.pageSize) (pos : 1 ≤ q.perPage) {s : σ} (ready : Ready s)
    {scanned : List Fields} (ran : (candidates search q limits s).1 = .ok scanned) :
    scanned = found.take limits.maxHits.toNat := by
  obtain ⟨size, sized, pos', within⟩ := exists_pageSize given pos
  rcases done : candidatesFrom search q limits limits.maxHits.toNat 1 [] s with ⟨f | far, s'⟩
  · rw [candidates, Act.bind_of_error done] at ran
    cases ran
  · rw [candidates, Act.bind_of_ok done] at ran
    cases ran
    refine candidatesFrom_mayServe serves sized pos' within limits.maxHits.toNat 0 ready (by simp) ?_
    rw [Nat.zero_mul, List.take_zero, Nat.cast_zero, Int.zero_add, done]

end MayServe

end Logbook

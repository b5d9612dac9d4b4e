import Logbook.Proofs.Site.History

/-!
# Searches over an index that cannot be relied on

A search with a text filter scans the pages of the index until one is empty, the index says that
there are no more, or enough documents are found. Nothing of what the index says has to be true: its
pages may repeat or contradict each other, and its totals may be of any size. `ScanRun` is the scan
as it ends by itself. Each round but the last finds at least one document, so there are no more
rounds than documents wanted (`exists_scanRun`), and the fuel of `candidatesFrom` is never what ends
it (`ScanRun.candidatesFrom_eq`). What is answered is verified; `searchIndexed_sound` says what
follows from that.
-/

namespace Logbook

variable {σ : Type}

/-- The scan of candidates from a page on, until it ends: what was found before and in the end, and
how many searches there are. -/
inductive ScanRun (search : SearchBody → Act σ Hits) (q : IndexQuery) (limits : ScanLimits) :
    Int → List Fields → σ → Nat → List Fields → σ → Prop where
  | full {page : Int} {found : List Fields} {s : σ} : limits.maxHits ≤ found.length →
    ScanRun search q limits page found s 0 found s
  | last {page : Int} {found : List Fields} {s s' : σ} {body : SearchBody} {hits : Hits} :
    found.length < limits.maxHits → q.body (some page) (some limits.pageSize) = .ok body →
    search body s = (.ok hits, s') →
    hits.documents = [] ∨ hits.total ≤ page * limits.pageSize →
    ScanRun search q limits page found s 1 (found ++ hits.documents) s'
  | next {page : Int} {found all : List Fields} {s s' s'' : σ} {body : SearchBody} {hits : Hits}
    {n : Nat} : found.length < limits.maxHits →
    q.body (some page) (some limits.pageSize) = .ok body → search body s = (.ok hits, s') →
    hits.documents ≠ [] → page * limits.pageSize < hits.total →
    ScanRun search q limits (page + 1) (found ++ hits.documents) s' n all s'' →
    ScanRun search q limits page found s (n + 1) all s''

section Scan

variable {search : SearchBody → Act σ Hits} {q : IndexQuery} {limits : ScanLimits}

/-- With fuel for all searches of the scan, the scan is what is computed. -/
theorem ScanRun.candidatesFrom_eq {page : Int} {found all : List Fields} {s s' : σ} {n : Nat}
    (run : ScanRun search q limits page found s n all s') {fuel : Nat} (enough : n ≤ fuel) :
    candidatesFrom search q limits fuel page found s = (.ok all, s') := by
  induction run generalizing fuel with
  | full enoughFound =>
    rw [candidatesFrom_of_full search q enoughFound]
    rfl
  | last short written answered ends =>
    obtain ⟨fuel, rfl⟩ := Nat.exists_eq_add_one.2 enough
    rw [candidatesFrom_round (by omega) written answered,
      if_pos (by simpa [List.isEmpty_iff] using ends)]
  | next short written answered filled more _ ih =>
    obtain ⟨fuel, rfl⟩ := Nat.exists_eq_add_one.2 (Nat.lt_of_lt_of_le (Nat.succ_pos _) enough)
    rw [candidatesFrom_round (by omega) written answered,
      if_neg (by simpa [List.isEmpty_iff, filled] using more)]
    exact ih (by omega)

/-- What every document has that the index answers with, all have that are found. -/
theorem ScanRun.forall_found {D : Fields → Prop}
    (served : ∀ body s hits s', search body s = (.ok hits, s') → ∀ doc ∈ hits.documents, D doc)
    {page : Int} {found all : List Fields} {s s' : σ} {n : Nat}
    (run : ScanRun search q limits page found s n all s') (before : ∀ doc ∈ found, D doc) :
    ∀ doc ∈ all, D doc := by
  induction run with
  | full _ => exact before
  | last _ _ answered _ =>
    intro doc mem
    rcases List.mem_append.1 mem with old | new
    · exact before doc old
    · exact served _ _ _ _ answered doc new
  | next _ _ answered _ _ _ ih =>
    apply ih
    intro doc mem
    rcases List.mem_append.1 mem with old | new
    · exact before doc old
    · exact served _ _ _ _ answered doc new

/-- Where the index always answers, whatever it answers, the scan ends. Every search but the last
brings it nearer to its cap. -/
theorem exists_scanRun (limits : ScanLimits) (unsorted : q.sortPlan = .ok none)
    (answers : ∀ body s, ∃ hits s', search body s = (.ok hits, s')) (page : Int)
    (found : List Fields) (s : σ) : ∃ n all s', ScanRun search q limits page found s n all s' ∧
      n ≤ limits.maxHits.toNat - found.length := by
  -- on the number of documents that are still wanted
  induction wanted : limits.maxHits.toNat - found.length using Nat.strong_induction_on
    generalizing page found s with
  | _ wanted ih =>
    by_cases enough : limits.maxHits ≤ found.length
    · exact ⟨0, found, s, .full enough, Nat.zero_le _⟩
    · have short : (found.length : Int) < limits.maxHits := by omega
      obtain ⟨body, written, -⟩ := q.exists_unsorted unsorted (some page) (some limits.pageSize)
      obtain ⟨hits, s', answered⟩ := answers body s
      by_cases ends : hits.documents = [] ∨ hits.total ≤ page * limits.pageSize
      · exact ⟨1, _, s', .last short written answered ends, by omega⟩
      · obtain ⟨filled, more⟩ := not_or.1 ends
        have longer : found.length < (found ++ hits.documents).length := by
          have some_found := List.length_pos_iff.2 filled
          rw [List.length_append]
          omega
        obtain ⟨n, all, s'', run, bound⟩ :=
          ih (limits.maxHits.toNat - (found ++ hits.documents).length) (by omega) (page + 1)
            (found ++ hits.documents) s' rfl
        exact ⟨n + 1, all, s'', .next short written answered filled (by omega) run, by omega⟩

end Scan

/-- The message of a document is a text, as that of a log is. -/
def HasMessage (doc : Fields) : Prop :=
  ∃ text, doc.get "message" = .str text

theorem hasMessage_documentOf (r : LogEntry) : HasMessage (documentOf r.toFields) :=
  ⟨r.message, rfl⟩

namespace SurfaceFilter

/-- A filter has a verdict on a document with a message: its other texts are made for it. -/
theorem exists_verdict (t : SurfaceFilter) {doc : Fields} (worded : HasMessage doc) :
    ∃ b, t.accepts doc = .ok b := by
  obtain ⟨text, is⟩ := worded
  have message : messageValue doc = .str text := by
    rw [messageValue, is]
    by_cases blank : text = "" <;> simp [Json.orElse, Json.truthy, blank]
  have texts : ∃ ss : List String, textsOn doc t.surface = ss.map .str := by
    cases t.surface with
    | document => exact ⟨[text, stackTraceText doc, detailsText doc], by simp [textsOn, message]⟩
    | message => exact ⟨[text], by simp [textsOn, message]⟩
    | stackTrace => exact ⟨[stackTraceText doc], rfl⟩
    | details => exact ⟨[detailsText doc], rfl⟩
  obtain ⟨ss, are⟩ := texts
  rw [accepts, are, PhraseFilter.testAny_strings]
  exact ⟨_, rfl⟩

/-- Where the filter has a verdict on each document, verifying leaves those that it accepts. -/
theorem verify_of_verdicts (t : SurfaceFilter) {docs : List Fields}
    (verdicts : ∀ doc ∈ docs, ∃ b, t.accepts doc = .ok b) :
    t.verify docs = .ok (docs.filter fun doc => t.accepts doc = .ok true) := by
  induction docs with
  | nil => rfl
  | cons doc rest ih =>
    obtain ⟨b, verdict⟩ := verdicts doc List.mem_cons_self
    have others := ih fun d mem => verdicts d (List.mem_cons_of_mem doc mem)
    simp only [verify, verdict, others, List.filter_cons]
    cases b <;> rfl

end SurfaceFilter

/-- Where the index always answers, with any documents that have messages and with any totals, a
search with a text filter is answered after at most as many searches as documents are wanted at
most. It shows nothing but what the filter accepts, and its total counts what the filter accepts of
the documents found, up to the cap. -/
theorem searchIndexed_sound {search : SearchBody → Act σ Hits} (limits : ScanLimits)
    {p : SearchParams} {t : SurfaceFilter} (filter : p.textFilter? = some t)
    (capped : 1 ≤ limits.maxHits)
    (answers : ∀ body s, ∃ hits s', search body s = (.ok hits, s') ∧
      ∀ doc ∈ hits.documents, HasMessage doc) (s : σ) :
    ∃ q searches found s' r, p.query = .ok q ∧
      ScanRun search q limits 1 [] s searches found s' ∧ searches ≤ limits.maxHits ∧
      searchIndexed search limits p s = (.ok r, s') ∧
      (let verified := (found.take limits.maxHits.toNat).filter fun doc => t.accepts doc = .ok true
      r.total = verified.length ∧ r.total ≤ limits.maxHits ∧
        r.logs = pageOf verified p.page p.pageSize ∧ ∀ log ∈ r.logs, t.accepts log = .ok true) := by
  obtain ⟨q, asked, -, kept, -, unsorted⟩ := p.exists_query filter
  have answered : ∀ body s, ∃ hits s', search body s = (.ok hits, s') := by
    intro body s
    obtain ⟨hits, s', done, -⟩ := answers body s
    exact ⟨hits, s', done⟩
  have served : ∀ body s hits s', search body s = (.ok hits, s') →
      ∀ doc ∈ hits.documents, HasMessage doc := by
    intro body s hits s' done
    obtain ⟨hits', s'', done', worded⟩ := answers body s
    rw [done] at done'
    cases done'
    exact worded
  obtain ⟨searches, found, s', run, few⟩ :=
    exists_scanRun limits unsorted answered 1 [] s
  have worded := run.forall_found served nofun
  have scanned : candidates search q limits s = (.ok (found.take limits.maxHits.toNat), s') := by
    rw [candidates, Act.bind_of_ok (run.candidatesFrom_eq (by simpa using few))]
    rfl
  have verified : t.verify (found.take limits.maxHits.toNat) = .ok _ := t.verify_of_verdicts
    fun doc mem => t.exists_verdict (worded doc (List.mem_of_mem_take mem))
  obtain ⟨r, ran, total, logs⟩ : ∃ r, searchIndexed search limits p s = (.ok r, s') ∧
      r.total = ((found.take limits.maxHits.toNat).filter fun doc => t.accepts doc = .ok true).length ∧
      r.logs = pageOf ((found.take limits.maxHits.toNat).filter fun doc => t.accepts doc = .ok true)
        p.page p.pageSize := by
    unfold searchIndexed
    rw [asked, Act.bind_of_ok (Act.ofExcept_ok q s), kept]
    dsimp only
    rw [Act.bind_of_ok scanned, verified, Act.bind_of_ok (Act.ofExcept_ok _ s')]
    exact ⟨_, rfl, rfl, rfl⟩
  refine ⟨q, searches, found, s', r, asked, run, ?_, ran, total, ?_, logs, ?_⟩
  · rw [List.length_nil] at few
    omega
  · have fewer := (List.length_filter_le (fun doc => decide (t.accepts doc = .ok true))
      (found.take limits.maxHits.toNat)).trans (List.length_take_le _ _)
    rw [total]
    omega
  · intro log mem
    rw [logs] at mem
    exact of_decide_eq_true (List.mem_filter.1 (pageOf_subset _ _ _ mem)).2

/-- An index that answers every request with the same two documents, of another project one of them,
and says each time that there are more. -/
def wildIndex (_ : SearchBody) : Act Nat Hits :=
  fun n => (.ok ⟨100 * (n + 1), [documentOf SearchParams.namedHostLog.toFields, documentOf
    { SearchParams.namedHostLog with projectId := "depot", message := "Card declined" }.toFields]⟩,
    n + 1)

/-- Over that index a search for a word ends after two searches, with the cap in the middle of a
page, and counts the one document twice. -/
theorem searchIndexed_sound_wildIndex :
    ((searchIndexed wildIndex ⟨1, 3⟩ Site.timeoutSearch 0).1.toOption.map (·.total) = some 2 ∧
      (searchIndexed wildIndex ⟨1, 3⟩ Site.timeoutSearch 0).2 = 2) ∧
    ∃ q searches found s' r, Site.timeoutSearch.query = .ok q ∧
      ScanRun wildIndex q ⟨1, 3⟩ 1 [] 0 searches found s' ∧ (searches : Int) ≤ 3 ∧
      searchIndexed wildIndex ⟨1, 3⟩ Site.timeoutSearch 0 = (.ok r, s') ∧
      (let t : SurfaceFilter := ⟨.message, ⟨.and, [⟨"TIMEOUT", .anywhere⟩]⟩⟩
      let verified := (found.take 3).filter fun doc => t.accepts doc = .ok true
      r.total = verified.length ∧ r.total ≤ 3 ∧ r.logs = pageOf verified 1 1 ∧
        ∀ log ∈ r.logs, t.accepts log = .ok true) := by
  refine ⟨by decide +kernel, searchIndexed_sound ⟨1, 3⟩ rfl (by decide) ?_ 0⟩
  intro body n
  refine ⟨_, n + 1, rfl, ?_⟩
  intro doc mem
  rcases List.mem_pair.1 mem with rfl | rfl
  · exact hasMessage_documentOf _
  · exact hasMessage_documentOf _

end Logbook

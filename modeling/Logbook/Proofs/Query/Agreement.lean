import Logbook.Proofs.Query.Clauses
import Mathlib.Tactic.ByContra

/-!
# Where the store and the index select alike

The wishes of a search become conditions on columns and clauses on documents. A list of wished
values loses its empty texts on the way to the index and keeps them on the way to the store. So
the index lets too much through where a list holds empty texts alone (`Wanted.Widened`), and too
little where an empty value is wished for among others (`Wanted.Narrowed`).
`selects_alike_iff` says that nothing else keeps the two from selecting the same logs, and
`takes_eq_indexTakes` that without empty texts in lists they always do.
-/

namespace Logbook

namespace Wanted

/-- A list of empty texts alone is wished for, and the value is another one. -/
def Widened (w : Option Wanted) (v : Json) : Prop :=
  ∃ ss, w = some (.many ss) ∧ ss ≠ [] ∧ (∀ s ∈ ss, s = "") ∧ v ≠ .str ""

/-- An empty text is wished for among others, and the value is empty. -/
def Narrowed (w : Option Wanted) (v : Json) : Prop :=
  ∃ ss, w = some (.many ss) ∧ "" ∈ ss ∧ (∃ s ∈ ss, s ≠ "") ∧ v = .str ""

/-- No list of wished values holds an empty text. -/
def Filled (w : Option Wanted) : Prop :=
  ∀ ss, w = some (.many ss) → "" ∉ ss

theorem admits_some (w : Wanted) (v : Json) : admits (some w) v = (!w.isGiven || w.takes v) := by
  unfold admits
  rw [Option.filter_some]
  cases w.isGiven <;> rfl

theorem granted_one (s : String) (v : Json) :
    granted (some (.one s)) v = admits (some (.one s)) v := by
  by_cases h : s = "" <;> simp [granted, admits_some, condition?, isGiven, takes, h]

theorem admits_many {ss : List String} (h : ss ≠ []) (v : Json) :
    admits (some (.many ss)) v = ss.any fun s => v == .str s := by
  simp [admits_some, isGiven, takes, h]

/-- A list without texts other than the empty one is no condition for the index. -/
theorem granted_blanks {ss : List String} (h : ∀ s ∈ ss, s = "") (v : Json) :
    granted (some (.many ss)) v = true := by
  have left : ss.filter (· ≠ "") = [] := by simpa using h
  simp only [granted, Option.bind_some, condition?, left]
  rfl

/-- A list with other texts is the condition that the value is one of those. -/
theorem granted_many {ss : List String} (h : ∃ s ∈ ss, s ≠ "") (v : Json) :
    granted (some (.many ss)) v = (ss.filter (· ≠ "")).any fun s => v == .str s := by
  simp only [granted, Option.bind_some, condition?]
  cases kept : ss.filter (· ≠ "") with
  | nil =>
    obtain ⟨s, mem, filled⟩ := h
    simp only [List.filter_eq_nil_iff] at kept
    exact absurd filled (by simpa using kept s mem)
  | cons s r => simp

/-- A list that grants a value without admitting it holds empty texts alone. -/
theorem blank_of_granted {ss : List String} {v : Json} (given : ss ≠ [])
    (grants : granted (some (.many ss)) v = true) (refuses : admits (some (.many ss)) v = false) :
    ∀ s ∈ ss, s = "" := by
  rw [admits_many given, List.any_eq_false] at refuses
  by_contra filled
  simp only [not_forall] at filled
  obtain ⟨s, mem, hs⟩ := filled
  rw [granted_many ⟨s, mem, hs⟩, List.any_eq_true] at grants
  obtain ⟨t, kept, found⟩ := grants
  exact refuses t (List.mem_filter.1 kept).1 found

/-- A list that does not grant a value holds a text that is not empty. -/
theorem filled_of_not_granted {ss : List String} {v : Json}
    (refuses : granted (some (.many ss)) v = false) : ∃ s ∈ ss, s ≠ "" := by
  by_contra blank
  simp only [not_exists, not_and, not_not] at blank
  rw [granted_blanks blank] at refuses
  cases refuses

/-- The index grants what the store does not admit exactly if the wish is widened. -/
theorem widened_iff {w : Option Wanted} {v : Json} :
    Widened w v ↔ granted w v = true ∧ admits w v = false := by
  constructor
  · rintro ⟨ss, rfl, given, blank, other⟩
    refine ⟨granted_blanks blank v, ?_⟩
    rw [admits_many given, List.any_eq_false]
    intro s mem
    simpa [blank s mem] using other
  · rintro ⟨grants, refuses⟩
    match w with
    | none => cases refuses
    | some (.one s) =>
      rw [granted_one, refuses] at grants
      cases grants
    | some (.many ss) =>
      have given : ss ≠ [] := by
        rintro rfl
        cases refuses
      have blank := blank_of_granted given grants refuses
      rw [admits_many given, List.any_eq_false] at refuses
      obtain ⟨s, mem⟩ := List.exists_mem_of_ne_nil ss given
      refine ⟨ss, rfl, given, blank, ?_⟩
      simpa [blank s mem] using refuses s mem

/-- The store admits what the index does not grant exactly if the wish is narrowed. -/
theorem narrowed_iff {w : Option Wanted} {v : Json} :
    Narrowed w v ↔ admits w v = true ∧ granted w v = false := by
  constructor
  · rintro ⟨ss, rfl, blank, filled, rfl⟩
    constructor
    · rw [admits_many (List.ne_nil_of_mem blank), List.any_eq_true]
      exact ⟨"", blank, by simp⟩
    · rw [granted_many filled, List.any_eq_false]
      intro s kept
      have hs : s ≠ "" := by simpa using (List.mem_filter.1 kept).2
      simpa using hs.symm
  · rintro ⟨admitted, refuses⟩
    match w with
    | none => cases refuses
    | some (.one s) =>
      rw [granted_one, admitted] at refuses
      cases refuses
    | some (.many ss) =>
      have filled := filled_of_not_granted refuses
      rw [admits_many (List.ne_nil_of_mem filled.choose_spec.1), List.any_eq_true] at admitted
      obtain ⟨s, mem, found⟩ := admitted
      rw [granted_many filled, List.any_eq_false] at refuses
      have hs : s = "" := by
        by_contra hs
        exact refuses s (List.mem_filter.2 ⟨mem, by simpa using hs⟩) found
      subst hs
      exact ⟨ss, rfl, mem, filled, by simpa using found⟩

/-- Without empty texts in its list a wish is granted where it is admitted. -/
theorem granted_eq_admits {w : Option Wanted} (filled : Filled w) (v : Json) :
    granted w v = admits w v := by
  cases grants : granted w v <;> cases admitted : admits w v
  · rfl
  · obtain ⟨ss, given, blank, -⟩ := narrowed_iff.2 ⟨admitted, grants⟩
    exact absurd blank (filled ss given)
  · obtain ⟨ss, given, nonempty, blank, -⟩ := widened_iff.2 ⟨grants, admitted⟩
    obtain ⟨s, mem⟩ := List.exists_mem_of_ne_nil ss nonempty
    exact absurd (blank s mem ▸ mem) (filled ss given)
  · rfl

end Wanted

namespace SearchParams

/-- The wishes of a search that may be lists, each with the value that a log has for it. -/
def wishes (p : SearchParams) (r : LogEntry) : List (Option Wanted × Json) :=
  [(p.level, .str r.level), (p.environment, .str r.environment), (p.hostname, r.hostname)]

/-- No list of wished values holds an empty text. -/
structure Filled (p : SearchParams) : Prop where
  level : Wanted.Filled p.level
  environment : Wanted.Filled p.environment
  hostname : Wanted.Filled p.hostname

/-- A log type is wished for alone, so the index grants it where the store admits it. -/
theorem granted_logType (p : SearchParams) (v : Json) :
    Wanted.granted (p.logType.map .one) v = Wanted.admits (p.logType.map .one) v := by
  cases p.logType with
  | none => rfl
  | some s => exact Wanted.granted_one s v

/-- Without empty texts in lists the store and the index select the same logs. -/
theorem takes_eq_indexTakes {p : SearchParams} (filled : p.Filled) (r : LogEntry) :
    p.selection.takes r = p.indexTakes r := by
  unfold indexTakes
  rw [Wanted.granted_eq_admits filled.level, Wanted.granted_eq_admits filled.environment,
    Wanted.granted_eq_admits filled.hostname, p.granted_logType]
  rfl

/-- A log that the store does not take and the index does has a value for a widened wish. -/
theorem exists_widened {p : SearchParams} {r : LogEntry} (out : p.selection.takes r = false)
    (taken : p.indexTakes r = true) : ∃ f ∈ p.wishes r, Wanted.Widened f.1 f.2 := by
  by_contra neither
  simp only [wishes, List.mem_cons, List.not_mem_nil, or_false, exists_eq_or_imp, exists_eq_left,
    not_or, Wanted.widened_iff, not_and, Bool.not_eq_false] at neither
  obtain ⟨level, environment, hostname⟩ := neither
  simp only [indexTakes, Bool.and_eq_true, granted_logType] at taken
  obtain ⟨⟨⟨⟨⟨project, l⟩, e⟩, h⟩, logType⟩, times⟩ := taken
  have inside : p.selection.takes r = true := by
    simp only [Selection.takes, Bool.and_eq_true]
    exact ⟨⟨⟨⟨⟨project, level l⟩, environment e⟩, hostname h⟩, logType⟩, times⟩
  rw [out] at inside
  cases inside

/-- A log that the store takes and the index does not has a value for a narrowed wish. -/
theorem exists_narrowed {p : SearchParams} {r : LogEntry} (taken : p.selection.takes r = true)
    (out : p.indexTakes r = false) : ∃ f ∈ p.wishes r, Wanted.Narrowed f.1 f.2 := by
  by_contra neither
  simp only [wishes, List.mem_cons, List.not_mem_nil, or_false, exists_eq_or_imp, exists_eq_left,
    not_or, Wanted.narrowed_iff, not_and, Bool.not_eq_false] at neither
  obtain ⟨level, environment, hostname⟩ := neither
  simp only [Selection.takes, Bool.and_eq_true] at taken
  obtain ⟨⟨⟨⟨⟨project, l⟩, e⟩, h⟩, logType⟩, times⟩ := taken
  have inside : p.indexTakes r = true := by
    simp only [indexTakes, Bool.and_eq_true, granted_logType]
    exact ⟨⟨⟨⟨⟨project, level l⟩, environment e⟩, hostname h⟩, logType⟩, times⟩
  rw [out] at inside
  cases inside

/-- A log with a value for a widened wish is not taken by the store. -/
theorem takes_of_widened {p : SearchParams} {r : LogEntry}
    (h : ∃ f ∈ p.wishes r, Wanted.Widened f.1 f.2) : p.selection.takes r = false := by
  simp only [wishes, List.mem_cons, List.not_mem_nil, or_false, exists_eq_or_imp, exists_eq_left,
    Wanted.widened_iff] at h
  unfold Selection.takes selection
  rcases h with ⟨-, h⟩ | ⟨-, h⟩ | ⟨-, h⟩ <;> simp [h]

/-- A log with a value for a narrowed wish is not taken by the index. -/
theorem indexTakes_of_narrowed {p : SearchParams} {r : LogEntry}
    (h : ∃ f ∈ p.wishes r, Wanted.Narrowed f.1 f.2) : p.indexTakes r = false := by
  simp only [wishes, List.mem_cons, List.not_mem_nil, or_false, exists_eq_or_imp, exists_eq_left,
    Wanted.narrowed_iff] at h
  unfold indexTakes
  rcases h with ⟨-, h⟩ | ⟨-, h⟩ | ⟨-, h⟩ <;> simp [h]

/-- A search becomes a request that has a verdict on the document of every stored log. It is the
verdict of the store exactly if neither a widened wish lets the index take the log nor a narrowed
one keeps it from taking what the store takes. -/
theorem selects_alike_iff {p : SearchParams} {q : IndexQuery} (hq : p.query = .ok q)
    (page perPage : Option Int) (r : LogEntry) :
    ∃ body taken, q.body page perPage = .ok body ∧
      Clause.acceptsAll (documentOf r.toFields) body.clauses = .ok taken ∧
      (p.selection.takes r = taken ↔
        ¬(taken = true ∧ ∃ f ∈ p.wishes r, Wanted.Widened f.1 f.2) ∧
        ¬(p.selection.takes r = true ∧ ∃ f ∈ p.wishes r, Wanted.Narrowed f.1 f.2)) := by
  obtain ⟨body, written, clauses⟩ := exists_body hq page perPage
  refine ⟨body, p.indexTakes r, written, by rw [clauses, p.acceptsAll_clauses], ?_⟩
  constructor
  · intro alike
    constructor
    · rintro ⟨taken, widened⟩
      rw [← alike, takes_of_widened widened] at taken
      cases taken
    · rintro ⟨taken, narrowed⟩
      rw [alike, indexTakes_of_narrowed narrowed] at taken
      cases taken
  · rintro ⟨notWidened, notNarrowed⟩
    cases store : p.selection.takes r <;> cases index : p.indexTakes r
    · rfl
    · exact absurd ⟨index, exists_widened store index⟩ notWidened
    · exact absurd ⟨store, exists_narrowed store index⟩ notNarrowed
    · rfl

/-- A search for two levels, of which one is empty, on hosts without a name. -/
def blankSearch : SearchParams where
  projectId := "shop"
  level := some (.many ["ERROR", ""])
  hostname := some (.many [""])
  minTimestampMs := some 0

/-- A log that the store does not find under `blankSearch`, for its host has a name. -/
def namedHostLog : LogEntry where
  id := "log-1"
  projectId := "shop"
  logType := .application
  level := "ERROR"
  environment := "production"
  hostname := .str "web-01"
  message := "Gateway timeout"
  stackTrace := []
  rawStackTrace := .null
  details := []
  detailString := .str "{}"
  request := .null
  timestampMs := 5000
  createdAt := "2024-03-31T12:00:00"

theorem selects_alike_iff_blankSearch : ∃ q, blankSearch.query = .ok q ∧
    ∃ body taken, q.body (some 2) none = .ok body ∧
      Clause.acceptsAll (documentOf namedHostLog.toFields) body.clauses = .ok taken ∧
      (blankSearch.selection.takes namedHostLog = taken ↔
        ¬(taken = true ∧ ∃ f ∈ blankSearch.wishes namedHostLog, Wanted.Widened f.1 f.2) ∧
        ¬(blankSearch.selection.takes namedHostLog = true ∧
          ∃ f ∈ blankSearch.wishes namedHostLog, Wanted.Narrowed f.1 f.2)) :=
  ⟨_, rfl, selects_alike_iff rfl (some 2) none namedHostLog⟩

/-- The store refuses a log on a named host to the search for hosts without a name, and the index
lets it through. -/
theorem blankSearch_selects_differently : ∃ q body, blankSearch.query = .ok q ∧
    q.body = .ok body ∧ blankSearch.selection.takes namedHostLog = false ∧
    Clause.acceptsAll (documentOf namedHostLog.toFields) body.clauses = .ok true :=
  ⟨_, _, rfl, rfl, by decide +kernel, by rfl⟩

end SearchParams

end Logbook

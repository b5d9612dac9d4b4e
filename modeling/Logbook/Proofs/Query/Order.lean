import Logbook.Proofs.Query.Clauses
import Logbook.Query.Answer
import Mathlib.Data.List.Sort

/-!
# Logs and documents in order

Sorting loses and repeats nothing, in the index (`SearchIndex.sorted_perm`) and in the primary store
(`sortRecords_perm`), and it puts the logs of the store into the order that is asked for
(`SortOrder.pairwise_sort`). The values that logs are sorted by lie on one scale each, so the order of
the values themselves leaves no choice (`SortField.value_antisymm`).
-/

namespace Logbook

section TrySort

variable {α ε : Type} {before : α → α → Except ε Bool}

/-- An item joins a sorted list, wherever its place is found. -/
theorem tryInsert_perm {a : α} {xs ys : List α} (inserted : tryInsert before xs a = .ok ys) :
    ys.Perm (a :: xs) := by
  unfold tryInsert at inserted
  cases found : placeIn before a xs 0 xs.length with
  | error e =>
    rw [found] at inserted
    cases inserted
  | ok place =>
    rw [found] at inserted
    cases inserted
    have around : (xs.take place ++ a :: xs.drop place).Perm (a :: (xs.take place ++ xs.drop place)) :=
      List.perm_middle
    rwa [List.take_append_drop] at around

/-- All items join a sorted list, one after the other. -/
theorem foldlM_tryInsert_perm {xs sorted ys : List α}
    (inserted : xs.foldlM (tryInsert before) sorted = .ok ys) : ys.Perm (xs ++ sorted) := by
  induction xs generalizing sorted with
  | nil =>
    cases inserted
    exact .refl _
  | cons a r ih =>
    rw [List.foldlM_cons] at inserted
    cases first : tryInsert before sorted a with
    | error e =>
      rw [first] at inserted
      cases inserted
    | ok longer =>
      rw [first] at inserted
      have joined := (tryInsert_perm first).append_left r
      exact (ih inserted).trans (joined.trans List.perm_middle)

/-- A run at the start, turned around or not, and the items behind it are all items. -/
theorem run_perm {xs ys : List α} {n : Nat} {descends : Bool}
    (inserted : (xs.drop n).foldlM (tryInsert before)
      (if descends then (xs.take n).reverse else xs.take n) = .ok ys) : ys.Perm xs := by
  have run : (if descends then (xs.take n).reverse else xs.take n).Perm (xs.take n) := by
    cases descends with
    | true => exact List.reverse_perm _
    | false => exact .refl _
  have joined := (foldlM_tryInsert_perm inserted).trans (run.append_left (xs.drop n))
  have whole := joined.trans List.perm_append_comm
  rwa [List.take_append_drop] at whole

/-- A list that can be sorted keeps its items. -/
theorem trySort_perm {xs ys : List α} (sorted : trySort before xs = .ok ys) : ys.Perm xs := by
  match xs with
  | [] | [a] =>
    cases sorted
    exact .refl _
  | a :: b :: r =>
    simp only [trySort, bind, Except.bind] at sorted
    cases first : before b a with
    | error e =>
      rw [first] at sorted
      cases sorted
    | ok descends =>
      cases length : runLength before descends b r with
      | error e =>
        simp only [first, length] at sorted
        cases sorted
      | ok n =>
        simp only [first, length] at sorted
        exact run_perm sorted

end TrySort

namespace SearchIndex

/-- Documents that can be put in order stay the same documents. -/
theorem sorted_perm {sort : Option (String × String)} {docs found : List Fields}
    (ordered : sorted sort docs = .ok found) : found.Perm docs := by
  match sort with
  | none =>
    cases ordered
    exact .refl _
  | some (field, direction) =>
    unfold sorted at ordered
    dsimp only at ordered
    split at ordered
    · split at ordered <;> (cases ordered; exact sortBy_perm _ docs)
    · split at ordered
      · cases tried : trySort (fun a b => (sortValue field a).isBelow (sortValue field b))
            docs.reverse with
        | error f =>
          rw [tried] at ordered
          cases ordered
        | ok upward =>
          rw [tried] at ordered
          cases ordered
          have whole := (trySort_perm tried).trans (List.reverse_perm docs)
          exact (List.reverse_perm upward).trans whole
      · exact trySort_perm ordered

end SearchIndex

section SortBy

variable {α : Type} {le : α → α → Bool}

/-- Sorting by insertion is that of the library. -/
theorem sortBy_eq_insertionSort (le : α → α → Bool) (xs : List α) :
    sortBy le xs = xs.insertionSort fun a b => le a b = true := by
  have insert (a : α) (ys : List α) :
      insertBy le a ys = ys.orderedInsert (fun a b => le a b = true) a := by
    induction ys with
    | nil => rfl
    | cons b r ih => rw [insertBy, List.orderedInsert_cons, ih]
  induction xs with
  | nil => rfl
  | cons a r ih => rw [sortBy, List.insertionSort_cons, ih, insert]

/-- A sorted list is in order, if any two items can be ordered and the order is transitive. -/
theorem pairwise_sortBy (total : ∀ a b, le a b = true ∨ le b a = true)
    (trans : ∀ a b c, le a b = true → le b c = true → le a c = true) (xs : List α) :
    (sortBy le xs).Pairwise fun a b => le a b = true := by
  have : Std.Total fun a b => le a b = true := ⟨total⟩
  have : IsTrans α fun a b => le a b = true := ⟨trans⟩
  rw [sortBy_eq_insertionSort]
  exact List.pairwise_insertionSort _ xs

/-- Sorting commutes with a function that comparisons look through. -/
theorem sortBy_map {α β : Type} (f : α → β) (le : β → β → Bool) (xs : List α) :
    sortBy le (xs.map f) = (sortBy (fun a b => le (f a) (f b)) xs).map f := by
  have insert (a : α) (ys : List α) : insertBy le (f a) (ys.map f) =
      (insertBy (fun a b => le (f a) (f b)) a ys).map f := by
    induction ys with
    | nil => rfl
    | cons b r ih =>
      simp only [List.map_cons, insertBy]
      split
      · rfl
      · rw [ih, List.map_cons]
  induction xs with
  | nil => rfl
  | cons a r ih => rw [List.map_cons, sortBy, sortBy, ih, insert]

end SortBy

namespace SortField

variable {f : SortField} {a b c : LogEntry}

/-- The name of a field that logs are sorted by. -/
def name : SortField → String
  | timestamp => "timestamp_ms"
  | created => "created_at"
  | level => "level"
  | environment => "environment"

/-- A directive names a field by its name. -/
theorem name_of_lookup {s : String} (named : names.lookup s = some f) : s = f.name := by
  have listed : (s, f) ∈ names := (Keyed.lookup_eq_some_iff (by decide)).1 named
  simp only [names, List.mem_cons, List.not_mem_nil, or_false, Prod.mk.injEq] at listed
  rcases listed with ⟨rfl, rfl⟩ | ⟨rfl, rfl⟩ | ⟨rfl, rfl⟩ | ⟨rfl, rfl⟩ <;> rfl

/-- The value of a log that it is sorted by. -/
def value (f : SortField) (r : LogEntry) : Json :=
  r.toFields.get f.name

/-- Logs are compared by their values. -/
theorem atMost_eq_value (f : SortField) (a b : LogEntry) :
    f.atMost a b = (f.value a).atMost (f.value b) := by
  have numbers (m n : Int) : (Json.int m).atMost (.int n) = decide (m ≤ n) := by
    rw [Json.atMost, TimeSpan.isBelow_int]
    simp only [← Int.not_lt, decide_not]
  have texts (s t : String) : (Json.str s).atMost (.str t) = decide (s ≤ t) := by
    simp only [Json.atMost, Json.isBelow, ← String.not_lt, decide_not]
  cases f
  case timestamp => exact (numbers a.timestampMs b.timestampMs).symm
  case created => exact (texts a.createdAt b.createdAt).symm
  case level => exact (texts a.level b.level).symm
  case environment => exact (texts a.environment b.environment).symm

theorem atMost_total (f : SortField) (a b : LogEntry) :
    f.atMost a b = true ∨ f.atMost b a = true := by
  cases f <;> simp only [atMost, decide_eq_true_eq]
  · exact Int.le_total _ _
  all_goals exact String.le_total _ _

theorem atMost_trans (ab : f.atMost a b = true) (bc : f.atMost b c = true) :
    f.atMost a c = true := by
  cases f <;> simp only [atMost, decide_eq_true_eq] at ab bc ⊢
  · exact Int.le_trans ab bc
  all_goals exact String.le_trans ab bc

/-- Values that are not after one another are the same. -/
theorem value_antisymm (ab : (f.value a).atMost (f.value b) = true)
    (ba : (f.value b).atMost (f.value a) = true) : f.value a = f.value b := by
  rw [← atMost_eq_value] at ab ba
  cases f <;> simp only [atMost, decide_eq_true_eq] at ab ba
  · exact congrArg Json.int (Int.le_antisymm ab ba)
  all_goals exact congrArg Json.str (String.le_antisymm ab ba)

/-- The values of a field are all numbers or all texts. -/
theorem value_cases (f : SortField) :
    (∃ number : LogEntry → Int, ∀ r, f.value r = .int (number r)) ∨
      ∃ text : LogEntry → String, ∀ r, f.value r = .str (text r) := by
  cases f
  case timestamp => exact .inl ⟨(·.timestampMs), fun _ => rfl⟩
  case created => exact .inr ⟨(·.createdAt), fun _ => rfl⟩
  case level => exact .inr ⟨(·.level), fun _ => rfl⟩
  case environment => exact .inr ⟨(·.environment), fun _ => rfl⟩

theorem onOneScale_values (f : SortField) (rows : List LogEntry) :
    onOneScale (rows.map f.value) = true := by
  rw [onOneScale, Bool.or_eq_true, List.all_map, List.all_map, List.all_eq_true, List.all_eq_true]
  rcases f.value_cases with ⟨number, is⟩ | ⟨text, is⟩
  · left
    intro r _
    rw [Function.comp_apply, is]
    rfl
  · right
    intro r _
    rw [Function.comp_apply, is]

end SortField

namespace SortOrder

/-- The field and the direction of an order as a request has them. -/
def parts (o : SortOrder) : String × String :=
  (o.field.name, if o.descending then "desc" else "asc")

/-- A directive names a direction as a request has it. -/
theorem direction_of_lookup {s : String} {descending : Bool}
    (named : [("asc", false), ("desc", true)].lookup s = some descending) :
    s = if descending then "desc" else "asc" := by
  have listed := (Keyed.lookup_eq_some_iff (by decide)).1 named
  simp only [List.mem_cons, List.not_mem_nil, or_false, Prod.mk.injEq] at listed
  rcases listed with ⟨rfl, rfl⟩ | ⟨rfl, rfl⟩ <;> rfl

/-- May the first value stand before the second? -/
def allows (o : SortOrder) (v w : Json) : Bool :=
  if o.descending then w.atMost v else v.atMost w

/-- Logs in an order are in that order. -/
theorem pairwise_sort (o : SortOrder) (records : List LogEntry) :
    (o.sort records).Pairwise fun a b => o.allows (o.field.value a) (o.field.value b) = true := by
  unfold sort allows
  split
  · have downward : (sortBy (fun a b => o.field.atMost b a) records).Pairwise
        fun a b => o.field.atMost b a = true :=
      pairwise_sortBy (fun a b => o.field.atMost_total b a)
        (fun a b c ab bc => o.field.atMost_trans bc ab) records
    exact downward.imp fun {a b} h => o.field.atMost_eq_value b a ▸ h
  · have upward : (sortBy o.field.atMost records).Pairwise fun a b => o.field.atMost a b = true :=
      pairwise_sortBy o.field.atMost_total (fun a b c => o.field.atMost_trans) records
    exact upward.imp fun {a b} h => o.field.atMost_eq_value a b ▸ h

/-- Values that may stand before one another are the same. -/
theorem allows_antisymm {o : SortOrder} {a b : LogEntry}
    (ab : o.allows (o.field.value a) (o.field.value b) = true)
    (ba : o.allows (o.field.value b) (o.field.value a) = true) :
    o.field.value a = o.field.value b := by
  unfold allows at ab ba
  cases direction : o.descending <;> simp only [direction, if_true, if_false,
    Bool.false_eq_true] at ab ba
  · exact o.field.value_antisymm ab ba
  · exact o.field.value_antisymm ba ab

/-- Logs in an order are the same logs. -/
theorem sort_perm (o : SortOrder) (records : List LogEntry) : (o.sort records).Perm records := by
  unfold sort
  split <;> exact sortBy_perm _ records

end SortOrder

namespace SearchIndex

/-- Documents that are sorted by the values of logs are put into the order of these. -/
theorem exists_sorted {α : Type} (o : SortOrder) (log : α → LogEntry)
    (doc : α → Fields) (same : ∀ a, sortValue o.field.name (doc a) = o.field.value (log a))
    (xs : List α) : ∃ ordered : List α,
      sorted (some o.parts) (xs.map doc) = .ok (ordered.map doc) ∧
      ordered.Pairwise fun a b =>
        o.allows (o.field.value (log a)) (o.field.value (log b)) = true := by
  have scale : onOneScale ((xs.map doc).map (sortValue o.field.name)) = true := by
    have logs := o.field.onOneScale_values (xs.map log)
    rw [List.map_map] at logs ⊢
    simpa only [Function.comp_def, same] using logs
  unfold sorted SortOrder.parts SortOrder.allows
  dsimp only
  rw [if_pos scale]
  cases o.descending with
  | true =>
    refine ⟨_, congrArg Except.ok (sortBy_map doc _ xs), ?_⟩
    simp only [same, ← o.field.atMost_eq_value]
    exact pairwise_sortBy (fun a b => o.field.atMost_total (log b) (log a))
      (fun a b c ab bc => o.field.atMost_trans bc ab) xs
  | false =>
    refine ⟨_, congrArg Except.ok (sortBy_map doc _ xs), ?_⟩
    simp only [same, ← o.field.atMost_eq_value]
    exact pairwise_sortBy (fun a b => o.field.atMost_total (log a) (log b))
      (fun a b c ab bc => o.field.atMost_trans ab bc) xs

end SearchIndex

/-- Logs in the order of a directive are the same logs. -/
theorem sortRecords_perm {directive : Option String} {records ordered : List LogEntry}
    (sorted : sortRecords directive records = .ok ordered) : ordered.Perm records := by
  unfold sortRecords at sorted
  split at sorted
  · cases sorted
    exact .refl _
  · split at sorted
    · next order _ =>
      cases sorted
      exact order.sort_perm records
    · cases sorted

/-- The primary store finds the logs that are selected, in another order. -/
theorem Primary.find_perm {db : Primary} {selection : Selection} {taken : List LogEntry}
    (found : db.find selection = .ok taken) : taken.Perm (db.selected selection) := by
  unfold find at found
  cases checked : selection.check with
  | error f =>
    rw [checked] at found
    cases found
  | ok _ =>
    rw [checked] at found
    cases found
    exact (sortBy_perm _ _).trans (List.reverse_perm _)

end Logbook

import Logbook.Proofs.Alarm.Desk
import Mathlib.Data.List.Induction

/-!
# A desk over many calls

Calls reach a desk one after the other, at times that do not go back. An event that matches a rule
and is not remembered opens a window: from then on it is remembered, until the window ends. What
carries every run is that the cache knows just the windows that were opened, each key with the end
of its last one (`Cache.Tracks`). So an event is remembered exactly if a window of its key was
opened not longer ago than windows last.
-/

namespace Logbook

section Sometime

variable {ι : Type} {P : List ι → ι → Prop} {calls : List ι} {c : ι}

/-- One of some calls is such that `P` holds of it and the calls before it. -/
def Sometime (P : List ι → ι → Prop) (calls : List ι) : Prop :=
  ∃ pre c post, calls = pre ++ c :: post ∧ P pre c

theorem not_sometime_nil : ¬Sometime P [] := by
  rintro ⟨pre, c, post, split, -⟩
  simp at split

theorem sometime_concat : Sometime P (calls ++ [c]) ↔ Sometime P calls ∨ P calls c := by
  constructor
  · rintro ⟨pre, c', post, split, holds⟩
    rcases List.eq_nil_or_concat post with rfl | ⟨post', last, rfl⟩
    · obtain ⟨rfl, same⟩ := List.append_inj' split rfl
      cases same
      exact .inr holds
    · rw [List.concat_eq_append, ← List.cons_append, ← List.append_assoc] at split
      obtain ⟨rfl, -⟩ := List.append_inj' split rfl
      exact .inl ⟨pre, c', post', rfl, holds⟩
  · rintro (⟨pre, c', post, rfl, holds⟩ | holds)
    · exact ⟨pre, c', post ++ [c], by simp, holds⟩
    · exact ⟨calls, c, [], rfl, holds⟩

/-- What holds of one of some calls holds of it at a time that is not after that of a later call. -/
theorem Sometime.before {time : ι → Int} (h : Sometime P calls)
    (ordered : (calls ++ [c]).Pairwise fun a b => time a ≤ time b) :
    Sometime (fun pre c' => P pre c' ∧ time c' ≤ time c) calls := by
  obtain ⟨pre, c', post, rfl, holds⟩ := h
  refine ⟨pre, c', post, rfl, holds, ?_⟩
  rw [List.pairwise_append] at ordered
  exact ordered.2.2 c' (by simp) c (by simp)

end Sometime

namespace Cache

/-- Different keys are kept under different full keys. -/
theorem fullKey_inj {c : Cache} {k l : String} (h : c.fullKey k = c.fullKey l) : k = l := by
  unfold fullKey at h
  split at h
  · exact h
  · exact (String.append_right_inj _).1 h

/-- A healthy cache knows the windows that were opened, by their key and the time, each key with the
end of a window that no other one of the key outlasts. -/
structure Tracks (c : Cache) (seconds : Int) (opened : String → Int → Prop) : Prop where
  healthy : c.Healthy
  known : ∀ key entry, c.entries.lookup (c.fullKey key) = some entry →
    ∃ t, opened key t ∧ entry.expiry = t + seconds * 1000
  kept : ∀ key t, opened key t →
    ∃ entry, c.entries.lookup (c.fullKey key) = some entry ∧ t + seconds * 1000 ≤ entry.expiry

namespace Tracks

variable {c : Cache} {seconds now : Int} {opened : String → Int → Prop} {key : String}

/-- A key is live exactly if a window of it was opened not longer ago than windows last. -/
theorem live_iff (h : c.Tracks seconds opened) :
    (c.live? now (c.fullKey key)).isSome ↔ ∃ t, opened key t ∧ now < t + seconds * 1000 := by
  constructor
  · intro live
    obtain ⟨entry, found⟩ := Option.isSome_iff_exists.1 live
    obtain ⟨stored, early⟩ := Option.filter_eq_some_iff.1 found
    obtain ⟨t, was, expiry⟩ := h.known key entry stored
    exact ⟨t, was, expiry ▸ of_decide_eq_true early⟩
  · rintro ⟨t, was, early⟩
    obtain ⟨entry, stored, expiry⟩ := h.kept key t was
    exact Option.isSome_iff_exists.2 ⟨entry,
      Option.filter_eq_some_iff.2 ⟨stored, decide_eq_true (by omega)⟩⟩

/-- A call alone opens no window. -/
theorem called (h : c.Tracks seconds opened) : c.called.Tracks seconds opened :=
  ⟨⟨h.healthy.connected, h.healthy.steady⟩, h.known, h.kept⟩

/-- A value that is stored opens a window, which no earlier one of its key outlasts. -/
theorem store (h : c.Tracks seconds opened) (last : ∀ t, opened key t → t ≤ now) (value : Json) :
    (c.called.store now (c.fullKey key) value seconds).Tracks seconds
      fun k t => opened k t ∨ key = k ∧ now = t := by
  refine ⟨⟨h.healthy.connected, h.healthy.steady⟩, ?_, ?_⟩
  · intro k entry stored
    have looked : (Keyed.put (c.fullKey key) ⟨value, now + seconds * 1000⟩ c.entries).lookup
        (c.fullKey k) = some entry := stored
    rw [Keyed.lookup_put] at looked
    split at looked
    · next same =>
      cases looked
      exact ⟨now, .inr ⟨(fullKey_inj same).symm, rfl⟩, rfl⟩
    · obtain ⟨t, was, expiry⟩ := h.known k entry looked
      exact ⟨t, .inl was, expiry⟩
  · intro k t was
    by_cases same : k = key
    · subst same
      refine ⟨⟨value, now + seconds * 1000⟩, ?_, ?_⟩
      · exact (Keyed.lookup_put _ _ _ _).trans (if_pos rfl)
      · have earlier : t ≤ now := by
          rcases was with old | ⟨-, rfl⟩
          · exact last t old
          · exact Int.le_refl _
        dsimp only
        omega
    · rcases was with old | ⟨new, -⟩
      · obtain ⟨entry, stored, expiry⟩ := h.kept k t old
        refine ⟨entry, ?_, expiry⟩
        exact (Keyed.lookup_put _ _ _ _).trans ((if_neg fun e => same (fullKey_inj e)).trans stored)
      · exact absurd new.symm same

end Tracks

end Cache

/-- Calls that reach a desk one after the other. -/
structure DeskRun (ι : Type) where
  policy : AlarmPolicy
  /-- The desk after some calls. -/
  desk : List ι → Desk
  /-- The alert that a call after some others gives the desk, if it gives one. -/
  alert : List ι → ι → Option Alert
  /-- The time of a call in milliseconds. -/
  time : ι → Int
  healthy : (desk []).cache.Healthy
  fresh : (desk []).cache.entries = []
  timed : ∀ {calls c a}, alert calls c = some a → a.now = time c
  step : ∀ calls c, desk (calls ++ [c]) = match alert calls c with
    | none => desk calls
    | some a => ((desk calls).raiseAlarms policy a.occasion).2

namespace DeskRun

variable {ι : Type} (R : DeskRun ι)

/-- A call gives an alert about a log that matches a rule, and the event is not remembered. -/
def Opens (calls : List ι) (c : ι) (a : Alert) : Prop :=
  R.alert calls c = some a ∧ a.rules ≠ [] ∧ ¬(R.desk calls).Remembers a

/-- A window of a key was opened at a time. -/
def Opened (calls : List ι) (key : String) (t : Int) : Prop :=
  Sometime (fun pre c => ∃ a, R.Opens pre c a ∧ a.key = key ∧ a.now = t) calls

/-- A call gives an alert, and alarms are sent. -/
def Sends (calls : List ι) (c : ι) (a : Alert) : Prop :=
  R.alert calls c = some a ∧
    ∃ n, 0 < n ∧ ((R.desk calls).raiseAlarms R.policy a.occasion).1 = .ok n

/-- Alarms for the event of an alert were sent before, not longer ago than windows last. -/
def SentLately (calls : List ι) (a : Alert) : Prop :=
  Sometime (fun pre c => ∃ b, R.Sends pre c b ∧ b.key = a.key ∧
    a.now - b.now < R.policy.debounceSeconds * 1000) calls

variable {R} {calls : List ι} {c : ι} {a : Alert}

theorem opened_concat {key : String} {t : Int} : R.Opened (calls ++ [c]) key t ↔
    R.Opened calls key t ∨ ∃ a, R.Opens calls c a ∧ a.key = key ∧ a.now = t :=
  sometime_concat

/-- A call that opens no window. -/
theorem opened_concat_of_not_opens (h : ∀ a, ¬R.Opens calls c a) :
    R.Opened (calls ++ [c]) = R.Opened calls := by
  funext key t
  simp [opened_concat, h]

/-- A call that opens a window. -/
theorem opened_concat_of_opens (h : R.Opens calls c a) :
    R.Opened (calls ++ [c]) = fun key t => R.Opened calls key t ∨ a.key = key ∧ a.now = t := by
  funext key t
  have only : ∀ b, R.Opens calls c b ↔ b = a := fun b =>
    ⟨fun opens => Option.some.inj (opens.1.symm.trans h.1), fun same => same ▸ h⟩
  simp [opened_concat, only]

/-- Windows were not opened after a later call. -/
theorem Opened.le_time {key : String} {t : Int} (h : R.Opened calls key t)
    (ordered : (calls ++ [c]).Pairwise fun c d => R.time c ≤ R.time d) : t ≤ R.time c := by
  obtain ⟨pre, c', post, -, ⟨a, opens, -, rfl⟩, earlier⟩ := h.before ordered
  rw [R.timed opens.1]
  exact earlier

/-- At first the cache knows no windows, and none were opened. -/
theorem tracks_nil : (R.desk []).cache.Tracks R.policy.debounceSeconds (R.Opened []) := by
  refine ⟨R.healthy, ?_, fun key t h => absurd h not_sometime_nil⟩
  intro key entry stored
  rw [R.fresh] at stored
  cases stored

/-- The cache knows the windows after one more call if it knew them before. -/
theorem tracks_concat (ordered : (calls ++ [c]).Pairwise fun c d => R.time c ≤ R.time d)
    (before : (R.desk calls).cache.Tracks R.policy.debounceSeconds (R.Opened calls)) :
    (R.desk (calls ++ [c])).cache.Tracks R.policy.debounceSeconds (R.Opened (calls ++ [c])) := by
  rw [R.step]
  cases given : R.alert calls c with
  | none =>
    rw [opened_concat_of_not_opens fun a opens => by simpa [given] using opens.1]
    exact before
  | some a =>
    dsimp only
    by_cases opens : R.Opens calls c a
    · obtain ⟨-, matched, new⟩ := opens
      rw [opened_concat_of_opens ⟨given, matched, new⟩,
        Desk.raiseAlarms_cache_of_new before.healthy matched new]
      refine before.store (fun t was => ?_) a.note
      rw [R.timed given]
      exact was.le_time ordered
    · have silent : ∀ b, ¬R.Opens calls c b := fun b opens' =>
        opens (Option.some.inj (given.symm.trans opens'.1) ▸ opens')
      rw [opened_concat_of_not_opens silent]
      by_cases unmatched : a.rules = []
      · rw [(Desk.raiseAlarms_of_unmatched unmatched).1]
        exact before
      · have seen : (R.desk calls).Remembers a := by
          by_contra new
          exact opens ⟨given, unmatched, new⟩
        rw [Desk.raiseAlarms_of_remembers before.healthy unmatched seen]
        exact before.called

/-- After any calls the cache knows the windows that they have opened. -/
theorem tracks (calls : List ι) (ordered : calls.Pairwise fun c d => R.time c ≤ R.time d) :
    (R.desk calls).cache.Tracks R.policy.debounceSeconds (R.Opened calls) := by
  induction calls using List.reverseRecOn with
  | nil => exact tracks_nil
  | append_singleton calls c ih =>
    exact tracks_concat ordered (ih (List.pairwise_append.1 ordered).1)

/-- The event of an alert is remembered exactly if a window of its key was opened not longer ago
than windows last. -/
theorem remembers_iff (ordered : calls.Pairwise fun c d => R.time c ≤ R.time d) :
    (R.desk calls).Remembers a ↔ ∃ t, R.Opened calls a.key t ∧
      a.now - t < R.policy.debounceSeconds * 1000 := by
  unfold Desk.Remembers
  rw [(R.tracks calls ordered).live_iff]
  refine exists_congr fun t => and_congr_right fun _ => ?_
  omega

/-- Alarms are sent exactly for calls that open a window about a log whose time can be shown. -/
theorem sends_iff (ordered : calls.Pairwise fun c d => R.time c ≤ R.time d) :
    R.Sends calls c a ↔ R.Opens calls c a ∧ InCalendar a.log.timestampMs := by
  unfold Sends Opens
  rw [Desk.sends_iff (R.tracks calls ordered).healthy]
  simp only [and_assoc]

/-- Whether alarms were sent lately, in terms of the logs for which they are sent. -/
theorem sentLately_iff {sends : List ι → ι → LogEntry → Prop}
    (told : ∀ calls c r, sends calls c r ↔ ∃ a, a.log = r ∧ R.Sends calls c a) :
    R.SentLately calls a ↔ Sometime (fun pre c => ∃ r, sends pre c r ∧ r.eventKey = a.key ∧
      a.now - R.time c < R.policy.debounceSeconds * 1000) calls := by
  unfold SentLately Sometime
  refine exists_congr fun pre => exists_congr fun c => exists_congr fun post =>
    and_congr_right fun _ => ?_
  dsimp only
  simp only [told]
  constructor
  · rintro ⟨b, sent, key, lately⟩
    exact ⟨b.log, ⟨b, rfl, sent⟩, key, R.timed sent.1 ▸ lately⟩
  · rintro ⟨r, ⟨b, rfl, sent⟩, key, lately⟩
    exact ⟨b, sent, key, R.timed sent.1 ▸ lately⟩

/-- The calls before one of some calls are at times that do not go back, as those are. -/
theorem ordered_of_split {pre post : List ι}
    (ordered : calls.Pairwise fun c d => R.time c ≤ R.time d) (split : calls = pre ++ c :: post) :
    pre.Pairwise fun c d => R.time c ≤ R.time d := by
  rw [split] at ordered
  exact (List.pairwise_append.1 ordered).1

/-- An event for which alarms were sent lately is remembered. -/
theorem remembers_of_sentLately (ordered : calls.Pairwise fun c d => R.time c ≤ R.time d)
    (lately : R.SentLately calls a) : (R.desk calls).Remembers a := by
  obtain ⟨pre, c, post, split, b, sends, key, early⟩ := lately
  have opens := ((sends_iff (ordered_of_split ordered split)).1 sends).1
  exact (remembers_iff ordered).2 ⟨b.now, ⟨pre, c, post, split, b, opens, key, rfl⟩, early⟩

/-- As long as only logs whose time can be shown open windows, an event is remembered exactly if
alarms for it were sent lately. -/
theorem remembers_iff_sentLately (ordered : calls.Pairwise fun c d => R.time c ≤ R.time d)
    (dated : ∀ pre c post a, calls = pre ++ c :: post → R.Opens pre c a →
      InCalendar a.log.timestampMs) :
    (R.desk calls).Remembers a ↔ R.SentLately calls a := by
  refine ⟨fun remembers => ?_, remembers_of_sentLately ordered⟩
  obtain ⟨t, ⟨pre, c, post, split, b, opens, key, rfl⟩, early⟩ :=
    (remembers_iff ordered).1 remembers
  have sends := (sends_iff (ordered_of_split ordered split)).2
    ⟨opens, dated pre c post b split opens⟩
  exact ⟨pre, c, post, split, b, sends, key, early⟩

/-- A log that matches a rule without an alarm being sent is not lost if alarms for its event were
sent lately. No log is lost in a run exactly if the time of every log that opens a window can be
shown. -/
theorem none_lost_iff (ordered : calls.Pairwise fun c d => R.time c ≤ R.time d) :
    (∀ pre c post a, calls = pre ++ c :: post → R.alert pre c = some a → a.rules ≠ [] →
        ¬R.Sends pre c a → R.SentLately pre a) ↔
      ∀ pre c post a, calls = pre ++ c :: post → R.Opens pre c a →
        InCalendar a.log.timestampMs := by
  constructor
  · intro kept pre c post a split opens
    by_contra undated
    have before := ordered_of_split ordered split
    have silent : ¬R.Sends pre c a := fun sends => undated ((sends_iff before).1 sends).2
    have lately := kept pre c post a split opens.1 opens.2.1 silent
    exact opens.2.2 (remembers_of_sentLately before lately)
  · intro dated pre c post a split given matched silent
    have before := ordered_of_split ordered split
    have remembers : (R.desk pre).Remembers a := by
      by_contra new
      have opens : R.Opens pre c a := ⟨given, matched, new⟩
      exact silent ((sends_iff before).2 ⟨opens, dated pre c post a split opens⟩)
    refine (remembers_iff_sentLately before fun pre' c' post' a' split' => ?_).1 remembers
    exact dated pre' c' (post' ++ c :: post) a' (by rw [split, split', List.append_assoc]; rfl)

end DeskRun

end Logbook

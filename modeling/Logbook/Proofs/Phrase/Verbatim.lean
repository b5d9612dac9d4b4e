import Logbook.Proofs.Alarm.Rule
import Logbook.Proofs.Text.Case

/-!
# Phrases that stand in a text

Letters are compared in lower case, the phrase and the text each by itself. A phrase that stands in
a text character for character is found there as long as its capital sigmas keep their form
(`Text.SigmasKept`), that is, end words in the phrase exactly where they end words in the text.
`Condition.verbatim_found_iff` says that otherwise it is not found, unless its lower case happens to
stand at another place.
-/

namespace Logbook

namespace Text

variable {u p v : List Char}

/-- The capital sigmas of a text end words in it exactly where they end words between `u` and `v`. -/
def SigmasKept (u p v : List Char) : Prop :=
  ∀ a b, p = a ++ 'Σ' :: b → endsWord (a.reverse ++ u.reverse) (b ++ v) = endsWord a.reverse b

theorem lowerBetween_eq_lower_iff : lowerBetween u.reverse p v = lower p ↔ SigmasKept u p v := by
  rw [← lowerBetween_nil, lowerBetween_eq_iff]
  simp only [List.append_nil, SigmasKept]

/-- The lower case of a text is found at its place between two others if its sigmas are kept. -/
theorem eq_lower_around_iff {s t : List Char} (place : s.length = (lower u).length) :
    s ++ lower p ++ t = lower (u ++ p ++ v) ↔
      s = lowerBetween [] u (p ++ v) ∧ SigmasKept u p v ∧ t = lowerBetween (u ++ p).reverse v [] := by
  -- a part keeps its length in lower case wherever it stands, so the parts are compared one by one
  have before : s.length = (lowerBetween [] u (p ++ v)).length := by
    rw [place, length_lowerBetween_eq]
  have length : (lower p).length = (lowerBetween u.reverse p v).length := by
    rw [length_lowerBetween_eq]
  rw [lower_around, ← lowerBetween_eq_lower_iff, List.append_assoc, List.append_assoc]
  constructor
  · intro same
    obtain ⟨first, rest⟩ := List.append_inj same before
    obtain ⟨here, behind⟩ := List.append_inj rest length
    exact ⟨first, here.symm, behind⟩
  · rintro ⟨first, here, behind⟩
    rw [first, here, behind]

/-- A text stands in another, not just behind the first `n` characters. -/
def StandsBeside (n : Nat) (needle hay : List Char) : Prop :=
  ∃ s t, s ++ needle ++ t = hay ∧ s.length ≠ n

theorem lower_infix_iff : lower p <:+: lower (u ++ p ++ v) ↔
    SigmasKept u p v ∨ StandsBeside (lower u).length (lower p) (lower (u ++ p ++ v)) := by
  constructor
  · rintro ⟨s, t, whole⟩
    by_cases place : s.length = (lower u).length
    · exact .inl ((eq_lower_around_iff place).1 whole).2.1
    · exact .inr ⟨s, t, whole, place⟩
  · rintro (kept | ⟨s, t, whole, -⟩)
    · exact ⟨_, _, (eq_lower_around_iff (length_lowerBetween_eq ..)).2 ⟨rfl, kept, rfl⟩⟩
    · exact ⟨s, t, whole⟩

theorem lower_prefix_iff : lower p <+: lower (p ++ v) ↔ SigmasKept [] p v := by
  have around {t : List Char} := eq_lower_around_iff (u := []) (p := p) (v := v) (s := []) (t := t) rfl
  constructor
  · rintro ⟨t, whole⟩
    exact (around.1 whole).2.1
  · intro kept
    exact ⟨_, around.2 ⟨rfl, kept, rfl⟩⟩

theorem lower_suffix_iff : lower p <:+ lower (u ++ p) ↔ SigmasKept u p [] := by
  have around {s : List Char} := eq_lower_around_iff (u := u) (p := p) (v := []) (s := s) (t := [])
  simp only [List.append_nil] at around
  constructor
  · rintro ⟨s, whole⟩
    have length := congrArg List.length whole
    rw [List.length_append, length_lower_append, Nat.add_right_cancel_iff] at length
    exact ((around length).1 whole).2.1
  · intro kept
    exact ⟨_, (around (length_lowerBetween_eq ..)).2 ⟨rfl, kept, rfl⟩⟩

end Text

/-- Where the other parts of a rule match a log, its message decides. -/
theorem AlarmRule.accepts_iff_of_message {r : AlarmRule} {log : Fields} {part text : String}
    (asked : r.message = some part) (others : { r with message := none }.accepts log = .ok true)
    (message : log.get "message" = .str text) :
    r.accepts log = .ok true ↔ (Condition.mk part .anywhere).holds text = true := by
  have here : (log.get "message").asText = .ok text := by
    rw [message]
    rfl
  obtain ⟨logType, level, environment, -⟩ := accepts_iff.1 others
  rw [accepts_iff]
  constructor
  · intro whole
    obtain ⟨m, there, found⟩ := whole.message part asked
    rw [here] at there
    cases there
    exact found
  · intro found
    refine ⟨logType, level, environment, fun part' asked' => ⟨text, here, ?_⟩⟩
    rw [asked] at asked'
    cases asked'
    exact found

namespace Condition

/-- What is found of a phrase in a text where it stands between `u` and `v`: by conditions on the
text, and by alarm rules on logs with this message. -/
structure VerbatimFound (phrase text : String) (u v : List Char) : Prop where
  anywhere : (Condition.mk phrase .anywhere).holds text = true ↔
    Text.SigmasKept u phrase.toList v ∨
      Text.StandsBeside (Text.lower u).length (Text.lower phrase.toList) (Text.lower text.toList)
  atStart : u = [] → ((Condition.mk phrase .atStart).holds text = true ↔
    Text.SigmasKept u phrase.toList v)
  atEnd : v = [] → ((Condition.mk phrase .atEnd).holds text = true ↔
    Text.SigmasKept u phrase.toList v)
  rule : ∀ (r : AlarmRule) (log : Fields), r.message = some phrase →
    { r with message := none }.accepts log = .ok true → log.get "message" = .str text →
    (r.accepts log = .ok true ↔ Text.SigmasKept u phrase.toList v ∨
      Text.StandsBeside (Text.lower u).length (Text.lower phrase.toList) (Text.lower text.toList))

/-- A phrase that stands in a text is found exactly if its capital sigmas are kept there, or if its
lower case stands at another place and any place will do. -/
theorem verbatim_found_iff {phrase text : String} {u v : List Char}
    (stands : text.toList = u ++ phrase.toList ++ v) : VerbatimFound phrase text u v := by
  have anywhere : (Condition.mk phrase .anywhere).holds text = true ↔
      Text.SigmasKept u phrase.toList v ∨
        Text.StandsBeside (Text.lower u).length (Text.lower phrase.toList) (Text.lower text.toList) := by
    rw [holds, Place.holds_iff, stands]
    exact Text.lower_infix_iff
  refine ⟨anywhere, ?_, ?_, ?_⟩
  · rintro rfl
    rw [holds, Place.holds_iff, stands]
    exact Text.lower_prefix_iff
  · rintro rfl
    rw [holds, Place.holds_iff, stands, List.append_nil]
    exact Text.lower_suffix_iff
  · intro r log asked others message
    rw [AlarmRule.accepts_iff_of_message asked others message]
    exact anywhere

/-- The last word of a text is found, though it ends with a sigma. -/
theorem verbatim_found_lastWord :
    "ΣΥΣΤΗΜΑ ΕΚΤΟΣ".toList = "ΣΥΣΤΗΜΑ ".toList ++ "ΕΚΤΟΣ".toList ++ [] ∧
      Text.SigmasKept "ΣΥΣΤΗΜΑ ".toList "ΕΚΤΟΣ".toList [] ∧
      VerbatimFound "ΕΚΤΟΣ" "ΣΥΣΤΗΜΑ ΕΚΤΟΣ" "ΣΥΣΤΗΜΑ ".toList [] :=
  ⟨by decide, Text.lowerBetween_eq_lower_iff.1 (by decide +kernel), verbatim_found_iff (by decide)⟩

/-- The rule that asks for a part of the messages of errors in production. -/
def partRule (part : Option String) : AlarmRule where
  level := .one "error"
  environment := "production"
  message := part

/-- An error in production. -/
def errorFields (message : String) : Fields :=
  [("log_type", .str "application"), ("level", .str "ERROR"), ("environment", .str "production"),
    ("message", .str message)]

/-- The first letters of a word are not found in it where the last of them is a sigma, neither at its
start nor anywhere, and a rule that asks for them does not match. The last letter of a word is not
found at its end if it is a sigma. -/
theorem verbatim_missed_sigma :
    "ΣΥΣ".toList <+: "ΣΥΣΤΗΜΑ".toList ∧
      (Condition.mk "ΣΥΣ" .anywhere).holds "ΣΥΣΤΗΜΑ" = false ∧
      (Condition.mk "ΣΥΣ" .atStart).holds "ΣΥΣΤΗΜΑ" = false ∧
      (partRule none).accepts (errorFields "ΣΥΣΤΗΜΑ") = .ok true ∧
      (partRule (some "ΣΥΣ")).accepts (errorFields "ΣΥΣΤΗΜΑ") = .ok false ∧
      "Σ".toList <:+ "ΕΚΤΟΣ".toList ∧ (Condition.mk "Σ" .atEnd).holds "ΕΚΤΟΣ" = false := by
  refine ⟨by decide, ?_, ?_, ?_, ?_, by decide, ?_⟩ <;> decide +kernel

end Condition

end Logbook

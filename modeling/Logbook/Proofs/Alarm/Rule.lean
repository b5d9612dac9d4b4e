import Logbook.Alarm.Rule
import Mathlib.Tactic.MkIffOfInductiveProp

/-!
# What an alarm rule matches

A log matches a rule if it has the log type of the rule, a level and an environment that the rule
wants, and the part of the message that the rule asks for. `AlarmRule.accepts_iff` says that these
are the logs that the test of the rule accepts.
-/

namespace Logbook

section Tests

variable {ε α : Type} {x : Except ε α} {test : α → Bool}

/-- A test that ends with `false` is passed by a value on the way to whatever comes next. -/
theorem passed_iff {rest : Except ε Bool} :
    (x >>= fun a => if (!test a) = true then pure false else rest) = .ok true ↔
      (∃ a, x = .ok a ∧ test a = true) ∧ rest = .ok true := by
  cases x with
  | error e => simp [bind, Except.bind]
  | ok a => cases passed : test a <;> simp [bind, Except.bind, pure, Except.pure, passed]

/-- The last test is passed by a value. -/
theorem passedLast_iff :
    (x >>= fun a => pure (test a)) = .ok true ↔ ∃ a, x = .ok a ∧ test a = true := by
  cases x <;> simp [bind, Except.bind, pure, Except.pure]

end Tests

namespace AlarmRule

variable {r : AlarmRule} {log : Fields}

/-- A log is as the rule wants it in each part. -/
@[mk_iff]
structure Matches (r : AlarmRule) (log : Fields) : Prop where
  logType : log.get "log_type" = .str r.logType
  level : ∃ l, (log.get "level").asText = .ok l ∧ r.wantsLevel l = true
  environment : ∃ e, (log.get "environment").asText = .ok e ∧ r.wantsEnvironment e = true
  message : ∀ part, r.message = some part →
    ∃ m, (log.get "message").asText = .ok m ∧ (Condition.mk part .anywhere).holds m = true

theorem accepts_iff : r.accepts log = .ok true ↔ r.Matches log := by
  rw [matches_iff, accepts]
  by_cases kind : log.get "log_type" = .str r.logType
  case neg => simp [kind, pure, Except.pure]
  rw [if_neg (not_not_intro kind), passed_iff, passed_iff]
  cases asked : r.message with
  | none => simp [kind, pure, Except.pure]
  | some part => simp only [kind, true_and, passedLast_iff, Option.some.injEq, forall_eq']

end AlarmRule

end Logbook

import Logbook.Proofs.Alarm.Key
import Logbook.Proofs.Alarm.Rule

/-!
# Levels in keys and in rules

The key of an event has the level in upper case; a rule compares levels in lower case. There are
levels of which the one is the same and the other is not. `LogEntry.rules_agree_iff` says that two
logs that report the same event match the same rules exactly if their levels have the same lower
case, and `LogEntry.lowered_level_of_ascii` that levels in ASCII always have. What a rule says of a
stored log is put down as `AlarmRule.wants`; a rule passes the check of rules as it is answered
(`AlarmRule.check_toJson`), so there is a rule for every log type, level and environment.
-/

namespace Logbook

namespace Check

variable {α : Type} {check : Check α} {answer : α → Json} {name : String} {fs : Fields}

/-- A field that may be `null` passes its check as it is answered. -/
theorem optionalField_orNull {o : Option α} (found : fs.lookup name = some (.orNull answer o))
    (back : ∀ a, check (answer a) = .good a) (given : ∀ a, answer a ≠ .null) :
    optionalField name check fs = .good o := by
  rw [optionalField, defaulted, found]
  cases o with
  | none => rfl
  | some a =>
    have kept : optional check (answer a) = (check (answer a)).map some := by
      unfold optional
      split
      · rename_i null
        exact absurd null (given a)
      · rfl
    show (optional check (answer a)).under _ = _
    rw [kept, back]
    rfl

/-- Texts pass the check for texts. -/
theorem items_text (ss : List String) (i : Nat) :
    Checked.items text i (ss.map .str) = .good ss := by
  induction ss generalizing i with
  | nil => rfl
  | cons s rest ih =>
    rw [List.map_cons, Checked.items, ih]
    rfl

end Check

/-- Wanted values pass their check as they are answered. -/
theorem Wanted.check_toJson (w : Wanted) : Wanted.check w.toJson = .good w := by
  cases w with
  | one s => rfl
  | many ss =>
    have texts : Check.list Check.text (Json.strings ss) = .good ss := Check.items_text ss 0
    rw [toJson, Json.strings, check, ← Json.strings, texts]

/-- The fields of the ways of delivery as they are answered. -/
def DeliveryPlan.toFields (d : DeliveryPlan) : Fields :=
  [("email", .orNull (fun ss => .obj [("addresses", Json.strings ss)]) d.email),
    ("slack", .orNull (fun u => .obj [("webhook", .str u)]) d.chat),
    ("webhook", .orNull (fun u => .obj [("url", .str u)]) d.webhook)]

/-- Ways of delivery pass their check as they are answered. -/
theorem DeliveryPlan.check_toJson (d : DeliveryPlan) : DeliveryPlan.check d.toJson = .good d := by
  have addresses (ss : List String) : Check.object (Check.defaulted "addresses" []
      (Check.list Check.text)) (.obj [("addresses", Json.strings ss)]) = .good ss := by
    have texts : Check.list Check.text (Json.strings ss) = .good ss := Check.items_text ss 0
    show (Check.list Check.text (Json.strings ss)).under _ = _
    rw [texts]
    rfl
  have email : Check.optionalField "email" (Check.object (Check.defaulted "addresses" []
      (Check.list Check.text))) d.toFields = .good d.email :=
    Check.optionalField_orNull rfl addresses (by simp)
  have chat : Check.optionalField "slack" (Check.object (Check.required "webhook" Check.text))
      d.toFields = .good d.chat :=
    Check.optionalField_orNull rfl (fun _ => rfl) (by simp)
  have webhook : Check.optionalField "webhook" (Check.object (Check.required "url" Check.text))
      d.toFields = .good d.webhook :=
    Check.optionalField_orNull rfl (fun _ => rfl) (by simp)
  show DeliveryPlan.mk <$> Check.optionalField "email" _ d.toFields <*>
    Check.optionalField "slack" _ d.toFields <*> Check.optionalField "webhook" _ d.toFields = _
  rw [email, chat, webhook]
  rfl

namespace AlarmRule

/-- A rule passes the check of rules as it is answered. -/
theorem check_toJson (rule : AlarmRule) : AlarmRule.check rule.toJson = .good rule := by
  have level : (Wanted.check rule.level.toJson).under (.field "level") = .good rule.level := by
    rw [rule.level.check_toJson]
    rfl
  have delivery : (DeliveryPlan.check rule.delivery.toJson).under (.field "deliveryMethods") =
      .good rule.delivery := by
    rw [rule.delivery.check_toJson]
    rfl
  have message : Check.optionalField "message" Check.text
      [("message", .orNull .str rule.message)] = .good rule.message :=
    Check.optionalField_orNull rfl (fun _ => rfl) (by simp)
  show AlarmRule.mk <$> Checked.good rule.logType <*>
    (Wanted.check rule.level.toJson).under (.field "level") <*> .good rule.environment <*>
    Check.optionalField "message" Check.text [("message", .orNull .str rule.message)] <*>
    (DeliveryPlan.check rule.delivery.toJson).under (.field "deliveryMethods") = .good rule
  rw [level, message, delivery]
  rfl

/-- What the rule says of a stored log. -/
def wants (rule : AlarmRule) (r : LogEntry) : Bool :=
  rule.logType == r.logType.name && rule.wantsLevel r.level &&
    rule.wantsEnvironment r.environment &&
    rule.message.all fun part => (Condition.mk part .anywhere).holds r.message

theorem accepts_toFields (rule : AlarmRule) (r : LogEntry) :
    rule.accepts r.toFields = .ok (rule.wants r) := by
  have logType : r.toFields.get "log_type" = .str r.logType.name := rfl
  have level : (r.toFields.get "level").asText = .ok r.level := rfl
  have environment : (r.toFields.get "environment").asText = .ok r.environment := rfl
  have message : (r.toFields.get "message").asText = .ok r.message := rfl
  rw [accepts, logType, level, environment, message, wants]
  by_cases kind : rule.logType = r.logType.name
  case neg =>
    have other : Json.str r.logType.name ≠ .str rule.logType := fun same =>
      kind (Json.str.inj same).symm
    simp [other, kind, pure, Except.pure]
  rw [kind, if_neg (not_not_intro rfl)]
  cases level : rule.wantsLevel r.level <;> cases environment : rule.wantsEnvironment r.environment
    <;> cases rule.message <;> simp [level, environment, bind, Except.bind, pure, Except.pure]

/-- It is known of two stored logs whether they match a rule, and it may be the same. -/
theorem accepts_alike_iff {rule : AlarmRule} {r r' : LogEntry} :
    (∃ b, rule.accepts r.toFields = .ok b ∧ rule.accepts r'.toFields = .ok b) ↔
      rule.wants r = rule.wants r' := by
  rw [accepts_toFields, accepts_toFields]
  constructor
  · rintro ⟨b, first, second⟩
    rw [Except.ok.inj first, Except.ok.inj second]
  · intro same
    exact ⟨rule.wants r, rfl, congrArg _ same.symm⟩

/-- The rule for the logs of the same log type, level and environment as a given one. -/
def forLike (r : LogEntry) : AlarmRule where
  logType := r.logType.name
  level := .one r.level
  environment := r.environment

theorem wants_forLike (r r' : LogEntry) : (forLike r).wants r' = true ↔
    r.logType.name = r'.logType.name ∧ lowered r.level = lowered r'.level ∧
      lowered r.environment = lowered r'.environment := by
  simp [wants, forLike, wantsLevel, wantsEnvironment, Wanted.toList, and_assoc,
    eq_comm (a := lowered r'.level)]

end AlarmRule

namespace LogEntry

variable {r r' : LogEntry}

/-- Two logs that report the same event match the same rules, whatever the rules, exactly if their
levels have the same lower case. -/
theorem rules_agree_iff (same : r.signature = r'.signature) :
    (∀ raw rule, AlarmRule.check raw = .good rule →
      ∃ b, rule.accepts r.toFields = .ok b ∧ rule.accepts r'.toFields = .ok b) ↔
      lowered r.level = lowered r'.level := by
  obtain ⟨-, logType, environment, -, message⟩ := EventSignature.mk.inj same
  simp only [AlarmRule.accepts_alike_iff]
  constructor
  · intro agree
    have own : (AlarmRule.forLike r).wants r = true :=
      (AlarmRule.wants_forLike r r).2 ⟨rfl, rfl, rfl⟩
    have both := agree _ _ (AlarmRule.check_toJson (AlarmRule.forLike r))
    exact ((AlarmRule.wants_forLike r r').1 (both ▸ own)).2.1
  · intro level raw rule _
    simp only [AlarmRule.wants, AlarmRule.wantsLevel, AlarmRule.wantsEnvironment, logType, level,
      environment, message]

/-- In ASCII the upper case of a text tells its lower case. -/
theorem lowered_eq_of_ascii {s t : String}
    (ascii : ∀ c ∈ s.toList ++ t.toList, c.toNat < 128) (same : uppered s = uppered t) :
    lowered s = lowered t := by
  have back : ∀ n < 128, (Char.ofNat n).toUpper.toLower = (Char.ofNat n).toLower := by decide
  have lower_of_upper (u : String) (small : ∀ c ∈ u.toList, c.toNat < 128) :
      Text.lower u.toList = (Text.upper u.toList).map Char.toLower := by
    have upper : Text.upper u.toList = u.toList.map Char.toUpper := by
      rw [Text.upper, ← List.flatMap_pure_eq_map]
      apply List.flatMap_congr
      intro c mem
      exact if_pos (small c mem)
    rw [Text.lower_of_ascii small, upper, List.map_map]
    apply List.map_congr_left
    intro c mem
    have at_c := back c.toNat (small c mem)
    rw [Char.ofNat_toNat] at at_c
    exact at_c.symm
  have upper : Text.upper s.toList = Text.upper t.toList := String.ofList_injective same
  rw [lowered, lowered, lower_of_upper s fun c mem => ascii c (List.mem_append_left _ mem),
    lower_of_upper t fun c mem => ascii c (List.mem_append_right _ mem), upper]

/-- Two logs that report the same event, with levels in ASCII, match the same rules. -/
theorem lowered_level_of_ascii (same : r.signature = r'.signature)
    (ascii : ∀ c ∈ r.level.toList ++ r'.level.toList, c.toNat < 128) :
    lowered r.level = lowered r'.level :=
  lowered_eq_of_ascii ascii (EventSignature.mk.inj same).2.2.2.1

/-- A log about a gateway with some level. -/
def withLevel (level : String) : LogEntry :=
  { errorIn "shop" "production" "Gateway timeout" with level := level }

/-- Errors match the same rules whether their level is written in capitals or not. -/
theorem rules_agree_error : (withLevel "ERROR").signature = (withLevel "error").signature ∧
    lowered "ERROR" = lowered "error" ∧
    ((∀ raw rule, AlarmRule.check raw = .good rule →
      ∃ b, rule.accepts (withLevel "ERROR").toFields = .ok b ∧
        rule.accepts (withLevel "error").toFields = .ok b) ↔
      lowered (withLevel "ERROR").level = lowered (withLevel "error").level) := by
  have same : (withLevel "ERROR").signature = (withLevel "error").signature := by decide
  exact ⟨same, by decide, rules_agree_iff same⟩

/-- An alert about a log with some level, where there are rules for a level with a dotless i and for
what it is in capitals. -/
def dotlessAlert (level : String) : Alert where
  log := withLevel level
  logId := "log-1"
  project := ⟨"o1", "shop", "Shop", .arr (["uyarı", "UYARI"].map fun wanted =>
    .obj [("level", .str wanted), ("environment", .str "production"),
      ("deliveryMethods", .obj [("webhook", .obj [("url", .str "https://hooks.example/alarm")])])])⟩
  now := 1711886400000

/-- A log matches another rule than one about the same event. It raises an alarm by itself, and none
after the other. -/
theorem other_rule_suppressed :
    (withLevel "uyarı").signature = (withLevel "UYARI").signature ∧
      (AlarmRule.forLike (withLevel "uyarı")).accepts (withLevel "uyarı").toFields = .ok true ∧
      (AlarmRule.forLike (withLevel "uyarı")).accepts (withLevel "UYARI").toFields = .ok false ∧
      (Desk.raiseAlarms {} (dotlessAlert "uyarı").occasion { cache := {} }).1 = .ok 1 ∧
      (Desk.raiseAlarms {} (dotlessAlert "UYARI").occasion { cache := {} }).1 = .ok 1 ∧
      (Desk.raiseAlarms {} (dotlessAlert "UYARI").occasion
        (Desk.raiseAlarms {} (dotlessAlert "uyarı").occasion { cache := {} }).2).1 = .ok 0 := by
  refine ⟨?_, ?_, ?_, ?_, ?_, ?_⟩
  · decide +kernel
  · decide +kernel
  · decide +kernel
  · decide +kernel
  · decide +kernel
  · decide +kernel

end LogEntry

end Logbook

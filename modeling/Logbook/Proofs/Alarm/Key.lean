import Logbook.Proofs.Alarm.Desk

/-!
# What a debounce key tells

Logs report the same event if they have the same signature: the project, the log type, the
environment and the level, whatever their case, and the message. A key puts these one after the
other with colons between them, the message as a digest. A digest has no colon, so a key tells the
message as far as digests do, and in order the parts that stand between the colons of the other
fields. It does not tell to which field a part belongs. `LogEntry.keys_identify_iff` says that just
this keeps keys from telling events apart, and `EventSignature.not_regrouped_of_colonless` that it
does not happen where environments and levels have no colons.
-/

namespace Logbook

namespace Digest

/-- The digits of a digest are hexadecimal. -/
theorem mem_hexDigits_of_mem_sha256Hex {bs : List UInt8} {c : Char} (mem : c ∈ sha256Hex bs) :
    c ∈ "0123456789abcdef".toList := by
  have digits : ∀ n < 16, Nat.digitChar n ∈ "0123456789abcdef".toList := by decide
  simp only [sha256Hex, hexWord, List.mem_flatMap, List.mem_map] at mem
  obtain ⟨w, -, i, -, rfl⟩ := mem
  exact digits _ (Nat.mod_lt _ (by decide))

end Digest

/-- The digits of the digest of a message that stand in keys. -/
def shortDigest (message : String) : List Char :=
  (Digest.sha256Hex message.toUTF8.data.toList).take 16

/-- Digests tell two messages apart: they are the same if their short digests are. -/
def DigestsTell (m m' : String) : Prop :=
  shortDigest m = shortDigest m' → m = m'

theorem messageDigest_of_ne {m : String} (given : m ≠ "") :
    (messageDigest m).toList = shortDigest m := by
  rw [messageDigest, if_neg given, String.toList_ofList, shortDigest]

theorem mem_hexDigits_of_mem_shortDigest {m : String} {c : Char} (mem : c ∈ shortDigest m) :
    c ∈ "0123456789abcdef".toList :=
  Digest.mem_hexDigits_of_mem_sha256Hex (List.mem_of_mem_take mem)

theorem colon_notMem_messageDigest (m : String) : ':' ∉ (messageDigest m).toList := by
  by_cases blank : m = ""
  · subst blank
    decide
  · rw [messageDigest_of_ne blank]
    intro mem
    exact absurd (mem_hexDigits_of_mem_shortDigest mem) (by decide)

/-- The word that stands for no message is the digest of none. -/
theorem messageDigest_ne_blank {m : String} (given : m ≠ "") :
    messageDigest m ≠ messageDigest "" := by
  intro same
  have mem : 'n' ∈ (messageDigest "").toList := by decide
  rw [← same, messageDigest_of_ne given] at mem
  exact absurd (mem_hexDigits_of_mem_shortDigest mem) (by decide)

/-- What stands in keys for two messages is the same only for the same message, as far as digests
tell them apart. -/
theorem messageDigest_eq_iff {m m' : String} (tell : DigestsTell m m') :
    messageDigest m = messageDigest m' ↔ m = m' := by
  refine ⟨fun same => ?_, fun same => same ▸ rfl⟩
  by_cases blank : m = "" <;> by_cases blank' : m' = ""
  · rw [blank, blank']
  · subst blank
    exact absurd same.symm (messageDigest_ne_blank blank')
  · subst blank'
    exact absurd same (messageDigest_ne_blank blank)
  · apply tell
    rw [← messageDigest_of_ne blank, ← messageDigest_of_ne blank', same]

section Colons

/-- What stands between the colons of a text. -/
def colonParts (s : String) : List (List Char) :=
  s.toList.splitOn ':'

/-- A text is made of its parts. -/
theorem colonParts_inj {s t : String} : colonParts s = colonParts t ↔ s = t := by
  have joined (u : String) : [':'].intercalate (colonParts u) = u.toList :=
    List.intercalate_splitOn ':'
  refine ⟨fun same => String.toList_inj.1 ?_, fun same => same ▸ rfl⟩
  rw [← joined s, same, joined t]

theorem colonParts_of_colonless {s : String} (h : ':' ∉ s.toList) : colonParts s = [s.toList] :=
  List.splitOn_eq_singleton h

/-- The parts of texts joined with colons are those of the texts. -/
theorem colonParts_intercalate {ss : List String} (given : ss ≠ []) :
    colonParts (":".intercalate ss) = ss.flatMap colonParts := by
  unfold colonParts
  rw [String.toList_intercalate]
  have colon : ":".toList = [':'] := rfl
  rw [colon]
  induction ss with
  | nil => exact absurd rfl given
  | cons s rest ih =>
    cases rest with
    | nil => simp
    | cons t rest =>
      rw [List.map_cons, List.map_cons, List.intercalate_cons_cons, List.append_assoc,
        List.singleton_append, List.splitOn_append_cons_self, List.flatMap_cons, ← List.map_cons,
        ih (by simp)]

end Colons

/-- What makes logs report the same event. -/
structure EventSignature where
  projectId : String
  logType : LogType
  /-- The environment in lower case. -/
  environment : String
  /-- The level in upper case. -/
  level : String
  message : String
  deriving DecidableEq, Repr

namespace EventSignature

/-- The parts between the colons of a key, from the project to the level. -/
def parts (e : EventSignature) : List (List Char) :=
  [e.projectId, e.logType.name, e.environment, e.level].flatMap colonParts

/-- How many of the parts belong to the project, to the environment and to the level. -/
def widths (e : EventSignature) : Nat × Nat × Nat :=
  ((colonParts e.projectId).length, (colonParts e.environment).length, (colonParts e.level).length)

/-- Two signatures have the same message and the same parts, and yet the parts do not belong to the
same fields. -/
structure Regrouped (e f : EventSignature) : Prop where
  message : e.message = f.message
  parts : e.parts = f.parts
  widths : e.widths ≠ f.widths

variable {e f : EventSignature}

theorem colonParts_logType (t : LogType) : colonParts t.name = [t.name.toList] :=
  colonParts_of_colonless (by cases t <;> decide)

theorem name_inj {t u : LogType} (same : t.name = u.name) : t = u := by
  cases t <;> cases u <;> simp [LogType.name] at same ⊢

/-- A signature is known from its message, its parts and how many of them belong to each field. -/
theorem eq_iff : e = f ↔ e.message = f.message ∧ e.parts = f.parts ∧ e.widths = f.widths := by
  refine ⟨fun same => same ▸ ⟨rfl, rfl, rfl⟩, ?_⟩
  rintro ⟨message, parts, widths⟩
  simp only [EventSignature.widths, Prod.mk.injEq] at widths
  obtain ⟨project, environment, -⟩ := widths
  simp only [EventSignature.parts, List.flatMap_cons, List.flatMap_nil, List.append_nil,
    colonParts_logType] at parts
  obtain ⟨sameProject, rest⟩ := List.append_inj parts project
  obtain ⟨sameType, rest⟩ := List.append_inj rest rfl
  obtain ⟨sameEnvironment, sameLevel⟩ := List.append_inj rest environment
  have names : e.logType.name = f.logType.name :=
    String.toList_inj.1 (List.cons.inj sameType).1
  obtain ⟨projectId, logType, environment, level, m⟩ := e
  simp only [colonParts_inj] at sameProject sameEnvironment sameLevel
  rw [mk.injEq]
  exact ⟨sameProject, name_inj names, sameEnvironment, sameLevel, message⟩

/-- Where environments and levels have no colons, no parts change their field, whatever the names of
the projects. -/
theorem not_regrouped_of_colonless
    (colonless : ∀ g ∈ [e, f], ':' ∉ g.environment.toList ∧ ':' ∉ g.level.toList) :
    ¬e.Regrouped f := by
  rintro ⟨-, parts, widths⟩
  obtain ⟨environment, level⟩ := colonless e (by simp)
  obtain ⟨environment', level'⟩ := colonless f (by simp)
  have total := congrArg List.length parts
  apply widths
  simp only [EventSignature.parts, EventSignature.widths, List.flatMap_cons, List.flatMap_nil,
    colonParts_logType, colonParts_of_colonless environment, colonParts_of_colonless environment',
    colonParts_of_colonless level, colonParts_of_colonless level', List.length_append,
    List.length_cons, List.length_nil] at total ⊢
  simp only [Prod.mk.injEq, and_true]
  omega

end EventSignature

namespace LogEntry

variable {r r' : LogEntry}

/-- The signature of the event that a log reports. -/
def signature (r : LogEntry) : EventSignature where
  projectId := r.projectId
  logType := r.logType
  environment := lowered r.environment
  level := uppered r.level
  message := r.message

/-- The parts of a key are a word, those of the signature and the digest of the message. -/
theorem colonParts_eventKey (r : LogEntry) : colonParts r.eventKey =
    "alarm".toList :: (r.signature.parts ++ [(messageDigest r.message).toList]) := by
  unfold eventKey Logbook.eventKey
  rw [colonParts_intercalate (by simp)]
  simp only [List.flatMap_cons, List.flatMap_nil, List.append_nil,
    colonParts_of_colonless (colon_notMem_messageDigest r.message),
    colonParts_of_colonless (show ':' ∉ "alarm".toList by decide)]
  simp [EventSignature.parts, signature]

/-- Two logs have the same key exactly if they have the same message and the same parts. -/
theorem eventKey_eq_iff (tell : DigestsTell r.message r'.message) :
    r.eventKey = r'.eventKey ↔ r.message = r'.message ∧ r.signature.parts = r'.signature.parts := by
  rw [← colonParts_inj, colonParts_eventKey, colonParts_eventKey, ← messageDigest_eq_iff tell]
  constructor
  · intro same
    obtain ⟨parts, digest⟩ := List.append_inj' (List.cons.inj same).2 rfl
    exact ⟨String.toList_inj.1 (List.cons.inj digest).1, parts⟩
  · rintro ⟨digest, parts⟩
    rw [digest, parts]

/-- Every stored log has a key. As far as digests tell their messages apart, two logs have the same
key exactly if they report the same event, unless the parts of their signatures are the same and do
not belong to the same fields. -/
theorem keys_identify_iff (tell : DigestsTell r.message r'.message) :
    ∃ key key', keyOfLog r.toFields = .ok key ∧ keyOfLog r'.toFields = .ok key' ∧
      ((key = key' ↔ r.signature = r'.signature) ↔ ¬r.signature.Regrouped r'.signature) := by
  refine ⟨r.eventKey, r'.eventKey, r.keyOfLog_toFields, r'.keyOfLog_toFields, ?_⟩
  have message (r : LogEntry) : r.signature.message = r.message := rfl
  rw [eventKey_eq_iff tell, EventSignature.eq_iff, message, message]
  constructor
  · rintro told ⟨sameMessage, sameParts, widths⟩
    exact widths (told.1 ⟨sameMessage, sameParts⟩).2.2
  · intro grouped
    refine ⟨fun ⟨sameMessage, sameParts⟩ => ⟨sameMessage, sameParts, ?_⟩,
      fun ⟨sameMessage, sameParts, _⟩ => ⟨sameMessage, sameParts⟩⟩
    by_contra widths
    exact grouped ⟨sameMessage, sameParts, widths⟩

/-- An error of a project in an environment. -/
def errorIn (projectId environment message : String) : LogEntry where
  id := "log-1"
  projectId := projectId
  logType := .application
  level := "ERROR"
  environment := environment
  hostname := .null
  message := message
  stackTrace := []
  rawStackTrace := .null
  details := []
  detailString := .str "\x7b\x7d"
  request := .null
  timestampMs := 1711886400000
  createdAt := "2024-03-31T12:00:00"

/-- Errors with other messages have other keys, though parts of their signatures are regrouped. -/
theorem keys_identify_iff_otherMessage : ∃ key key',
    keyOfLog (errorIn "shop" "application:production" "Gateway timeout").toFields = .ok key ∧
    keyOfLog (errorIn "shop:application" "production" "Card declined").toFields = .ok key' ∧
    ((key = key' ↔ (errorIn "shop" "application:production" "Gateway timeout").signature =
        (errorIn "shop:application" "production" "Card declined").signature) ↔
      ¬(errorIn "shop" "application:production" "Gateway timeout").signature.Regrouped
        (errorIn "shop:application" "production" "Card declined").signature) :=
  keys_identify_iff fun same => absurd same (by decide +kernel)

/-- An alert about an error that matches the rule of its project. -/
def errorAlert (projectId environment : String) : Alert where
  log := errorIn projectId environment "Gateway timeout"
  logId := "log-1"
  project := ⟨"o1", projectId, "Shop", .arr [.obj [("level", .str "error"),
    ("environment", .str environment),
    ("deliveryMethods", .obj [("webhook", .obj [("url", .str "https://hooks.example/alarm")])])]]⟩
  now := 1711886400000

/-- Errors of two projects have one key. An alarm is raised for each of them by itself, and none for
the second after one for the first. -/
theorem other_project_suppressed :
    keyOfLog (errorAlert "shop" "application:production").log.toFields =
        keyOfLog (errorAlert "shop:application" "production").log.toFields ∧
      (errorAlert "shop" "application:production").log.signature ≠
        (errorAlert "shop:application" "production").log.signature ∧
      (Desk.raiseAlarms {} (errorAlert "shop" "application:production").occasion
        { cache := {} }).1 = .ok 1 ∧
      (Desk.raiseAlarms {} (errorAlert "shop:application" "production").occasion
        { cache := {} }).1 = .ok 1 ∧
      (Desk.raiseAlarms {} (errorAlert "shop:application" "production").occasion
        (Desk.raiseAlarms {} (errorAlert "shop" "application:production").occasion
          { cache := {} }).2).1 = .ok 0 := by
  refine ⟨?_, by decide, ?_, ?_, ?_⟩
  · rw [keyOfLog_toFields, keyOfLog_toFields]
    decide +kernel
  · decide +kernel
  · decide +kernel
  · decide +kernel

end LogEntry

end Logbook

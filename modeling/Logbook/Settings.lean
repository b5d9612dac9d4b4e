import Logbook.Fault
import Logbook.Json.Reader
import Logbook.Validation.Scalar

/-!
# Settings

What can be set about the service, with its defaults. The settings are read from variables of the
environment, whose names may have any case; a list is written there as JSON.
-/

namespace Logbook

/-- The settings of the service. -/
structure Settings where
  appName : String := "KeepWatch"
  version : String := "1.0.0"
  environment : String := "production"
  debug : Bool := false
  appBaseUrl : String := "http://localhost:3000"
  databaseUrl : String := "postgresql://localhost:5432/keepwatch"
  useSearchIndex : Bool := true
  indexHost : String := "localhost"
  indexPort : Int := 9200
  indexUser : String := ""
  indexPassword : String := ""
  indexSsl : Bool := false
  logsIndex : String := "logs"
  searchScanPageSize : Int := 250
  searchScanMaxHits : Int := 10000
  useCache : Bool := true
  keyStoreUrl : String := "redis://localhost:6379/0"
  keyScope : String := ""
  alarmDebounceTtlSeconds : Int := 300
  deleteBatchSize : Int := 500
  collectPageSize : Int := 250
  streamName : String := "logs-stream"
  streamGroup : String := "log-ingestion"
  streamConsumer : String := "consumer-1"
  batchSize : Int := 50
  useIngestionStream : Bool := false
  mailKey : String := ""
  mailDomain : String := ""
  mailSender : String := ""
  mailBase : String := "https://api.mailgun.net/v3"
  deliveryTimeoutSeconds : Double := Double.ofQuotient 10 1
  defaultPageSize : Int := 50
  maxPageSize : Int := 1000
  allowedOrigins : List Json := [.str "*"]
  deriving DecidableEq, Repr

namespace Settings

/-- Settings by name; those that are missing have their defaults. -/
def checkFields (fs : Fields) : Checked Settings :=
  let d : Settings := {}
  let text (name : String) (absent : String) := Check.defaulted name absent Check.text fs
  let flag (name : String) (absent : Bool) := Check.defaulted name absent Check.truth fs
  let count (name : String) (absent : Int) := Check.defaulted name absent Check.integer fs
  Settings.mk <$> text "APP_NAME" d.appName <*> text "VERSION" d.version <*>
    text "ENVIRONMENT" d.environment <*> flag "DEBUG" d.debug <*>
    text "APP_BASE_URL" d.appBaseUrl <*> text "DATABASE_URL" d.databaseUrl <*>
    flag "USE_SEARCH_INDEX" d.useSearchIndex <*> text "OPENSEARCH_HOST" d.indexHost <*>
    count "OPENSEARCH_PORT" d.indexPort <*>
    text "OPENSEARCH_USERNAME" d.indexUser <*>
    text "OPENSEARCH_PASSWORD" d.indexPassword <*>
    flag "OPENSEARCH_USE_SSL" d.indexSsl <*> text "LOGS_INDEX" d.logsIndex <*>
    count "SEARCH_SCAN_PAGE_SIZE" d.searchScanPageSize <*>
    count "SEARCH_SCAN_MAX_HITS" d.searchScanMaxHits <*> flag "USE_CACHE" d.useCache <*>
    text "REDIS_URL" d.keyStoreUrl <*> text "REDIS_KEY_PREFIX" d.keyScope <*>
    count "ALARM_DEBOUNCE_TTL_SECONDS" d.alarmDebounceTtlSeconds <*>
    count "DELETE_BATCH_SIZE" d.deleteBatchSize <*>
    count "MIRROR_DELETE_PAGE_SIZE" d.collectPageSize <*>
    text "STREAM_NAME" d.streamName <*> text "STREAM_GROUP" d.streamGroup <*>
    text "STREAM_CONSUMER" d.streamConsumer <*> count "BATCH_SIZE" d.batchSize <*>
    flag "USE_INGESTION_STREAM" d.useIngestionStream <*>
    text "MAILGUN_API_KEY" d.mailKey <*> text "MAILGUN_DOMAIN" d.mailDomain <*>
    text "MAILGUN_SENDER_EMAIL" d.mailSender <*>
    text "MAILGUN_API_BASE" d.mailBase <*>
    Check.defaulted "DELIVERY_TIMEOUT_SECONDS" d.deliveryTimeoutSeconds Check.number fs <*>
    count "DEFAULT_PAGE_SIZE" d.defaultPageSize <*> count "MAX_PAGE_SIZE" d.maxPageSize <*>
    Check.defaulted "ALLOWED_ORIGINS" d.allowedOrigins Check.values fs

/-- The name of the setting that a variable sets. Names are equal if they agree in lower case,
where the names of settings are ASCII. -/
def name? (key : String) : Option String :=
  let s := lowered key
  if s.toList.all (fun c => c.val < 128) then some (s.map Char.toUpper) else none

/-- The values by the settings that they are given for; of two names that differ in case the last
one counts. -/
def named (fs : Fields) : Fields :=
  fs.foldl (fun acc (k, v) => (name? k).elim acc fun k => Keyed.put k v acc) []

/-- A list of origins that is written as JSON, where `null` stands for none given. -/
def withOrigins (fs : Fields) : Except Fault Fields :=
  match fs.lookup "ALLOWED_ORIGINS" with
  | some (.str s) => match Json.read s.toList with
    | some .null => .ok (Keyed.erase "ALLOWED_ORIGINS" fs)
    | some v => .ok (Keyed.put "ALLOWED_ORIGINS" v fs)
    | none => .error .settings
  | _ => .ok fs

/-- Is there a character in one of the texts that a variable cannot hold? -/
def holdsNul (v : String × String) : Bool :=
  v.1.toList.contains '\x00' || v.2.toList.contains '\x00'

/-- The fault of setting a variable: its name may be neither empty nor hold an equals sign. -/
def variableFault? (v : String × String) : Option Fault :=
  if holdsNul v || v.1.toList.contains '=' then some .badValue
  else if v.1 = "" then some .system
  else none

/-- The settings that the environment gives. -/
def ofEnvironment (env : List (String × String)) : Except Fault Settings := do
  match env.findSome? variableFault? with
  | some f => throw f
  | none =>
    let given := named (env.map fun (k, v) => (k, .str v))
    Checked.orFault (checkFields (← withOrigins given))

/-- The settings as they are answered. -/
def toJson (s : Settings) : Json :=
  .obj [("APP_NAME", .str s.appName), ("VERSION", .str s.version),
    ("ENVIRONMENT", .str s.environment), ("DEBUG", .bool s.debug),
    ("APP_BASE_URL", .str s.appBaseUrl), ("DATABASE_URL", .str s.databaseUrl),
    ("USE_SEARCH_INDEX", .bool s.useSearchIndex), ("OPENSEARCH_HOST", .str s.indexHost),
    ("OPENSEARCH_PORT", .int s.indexPort),
    ("OPENSEARCH_USERNAME", .str s.indexUser),
    ("OPENSEARCH_PASSWORD", .str s.indexPassword),
    ("OPENSEARCH_USE_SSL", .bool s.indexSsl), ("LOGS_INDEX", .str s.logsIndex),
    ("SEARCH_SCAN_PAGE_SIZE", .int s.searchScanPageSize),
    ("SEARCH_SCAN_MAX_HITS", .int s.searchScanMaxHits), ("USE_CACHE", .bool s.useCache),
    ("REDIS_URL", .str s.keyStoreUrl), ("REDIS_KEY_PREFIX", .str s.keyScope),
    ("ALARM_DEBOUNCE_TTL_SECONDS", .int s.alarmDebounceTtlSeconds),
    ("DELETE_BATCH_SIZE", .int s.deleteBatchSize),
    ("MIRROR_DELETE_PAGE_SIZE", .int s.collectPageSize), ("STREAM_NAME", .str s.streamName),
    ("STREAM_GROUP", .str s.streamGroup), ("STREAM_CONSUMER", .str s.streamConsumer),
    ("BATCH_SIZE", .int s.batchSize), ("USE_INGESTION_STREAM", .bool s.useIngestionStream),
    ("MAILGUN_API_KEY", .str s.mailKey), ("MAILGUN_DOMAIN", .str s.mailDomain),
    ("MAILGUN_SENDER_EMAIL", .str s.mailSender),
    ("MAILGUN_API_BASE", .str s.mailBase),
    ("DELIVERY_TIMEOUT_SECONDS", .float s.deliveryTimeoutSeconds),
    ("DEFAULT_PAGE_SIZE", .int s.defaultPageSize), ("MAX_PAGE_SIZE", .int s.maxPageSize),
    ("ALLOWED_ORIGINS", Json.bounded (.arr s.allowedOrigins))]

/-- The names of all settings. -/
def names : List String :=
  match toJson {} with
  | .obj fs => fs.map (·.1)
  | _ => []

/-- The issue with a name of no setting. -/
def issue? (key : String) : Option Issue :=
  if (name? key).any (· ∈ names) then none else some ⟨[.field key], .unexpected⟩

/-- Settings given by name. Those that are missing have their defaults; a name of no setting is an
issue. -/
def ofOverrides (fs : Fields) : Checked Settings :=
  let others := fs.filterMap fun (k, _) => issue? k
  let settled : Checked Unit := if others.isEmpty then .good () else .bad others
  (fun s _ => s) <$> checkFields (named fs) <*> settled

end Settings

end Logbook

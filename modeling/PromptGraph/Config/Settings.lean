import PromptGraph.Config.EnvFile
import PromptGraph.Failure
import PromptGraph.Schema.Field
import PromptGraph.Text.Letter

/-!
# `PromptGraph.Config.Settings` — the settings of a run

A setting is given directly, or by a variable of the surroundings, or by a file of variables, in this order of
precedence. Names are compared without regard to case.

## Contents
- **Settings.** `Settings`, `Settings.toJson`.
- **Database address.** `DsnParts`, `DsnParts.text`, `Settings.dsnParts?`: an address that is not given is built from
  its parts.
- **Reading.** `Settings.read`, `Settings.load`.
-/

namespace PromptGraph

/-! ## Settings -/

/-- The settings of a run. -/
structure Settings where
  baseUrl : String
  user : String
  password : String
  apiKey : Option String
  apiTimeout : Double
  dsn : String
  databaseHost : Option String
  databasePort : Option Int
  database : Option String
  databaseUser : Option String
  databasePassword : Option String
  schema : Option String
  tablePrefix : String
  logLevel : String
  pollInterval : Double
  pollAttempts : Int
  costPerToken : Double
  currency : String
  registryFile : Option String
  credentialAttempts : Int
  credentialServices : List String
  traceEndpoint : Option String
  traceTimeout : Int
  serviceName : String

namespace Settings

def toJson (s : Settings) : Json :=
  .obj [("N8N_BASE_URL", .str s.baseUrl), ("N8N_BASIC_AUTH_USER", .str s.user),
    ("N8N_BASIC_AUTH_PASSWORD", .str s.password), ("N8N_API_KEY", .ofString? s.apiKey),
    ("N8N_API_TIMEOUT", .float s.apiTimeout), ("PG_DSN", .str s.dsn),
    ("DB_POSTGRESDB_HOST", .ofString? s.databaseHost), ("DB_POSTGRESDB_PORT", .ofOption .int s.databasePort),
    ("DB_POSTGRESDB_DATABASE", .ofString? s.database), ("DB_POSTGRESDB_USER", .ofString? s.databaseUser),
    ("DB_POSTGRESDB_PASSWORD", .ofString? s.databasePassword), ("DB_POSTGRESDB_SCHEMA", .ofString? s.schema),
    ("DB_TABLE_PREFIX", .str s.tablePrefix), ("LOG_LEVEL", .str s.logLevel),
    ("POLL_INTERVAL_SECONDS", .float s.pollInterval), ("POLL_MAX_ATTEMPTS", .int s.pollAttempts),
    ("COST_PER_TOKEN", .float s.costPerToken), ("COST_CURRENCY", .str s.currency),
    ("DEPLOYMENT_REGISTRY_FILE", .ofString? s.registryFile),
    ("CREDENTIAL_SYNC_MAX_ATTEMPTS", .int s.credentialAttempts),
    ("CREDENTIAL_SERVICES", .arr (s.credentialServices.map .str)),
    ("OTEL_EXPORTER_OTLP_ENDPOINT", .ofString? s.traceEndpoint), ("OTEL_EXPORTER_OTLP_TIMEOUT", .int s.traceTimeout),
    ("OTEL_SERVICE_NAME", .str s.serviceName)]

end Settings

/-! ## Database address -/

/-- The parts of a database address. -/
structure DsnParts where
  user : String
  password : String
  host : String
  port : Int
  database : String
  deriving DecidableEq

/-- The address of the parts; an empty password is left out. -/
def DsnParts.text (p : DsnParts) : String :=
  "postgresql://" ++ p.user ++ (if p.password = "" then "" else ":" ++ p.password) ++ "@" ++ p.host ++ ":"
    ++ NumberLayout.integer p.port ++ "/" ++ p.database

namespace Settings

/-- A text that is neither absent nor empty. -/
def filled (s : Option String) : Option String := s.filter (· ≠ "")

/-- The parts of the database address, where host and database are given. -/
def dsnParts? (s : Settings) : Option DsnParts := do
  let host ← filled s.databaseHost
  let database ← filled s.database
  pure
    { user := (filled s.databaseUser).getD "postgres"
      password := s.databasePassword.getD ""
      host := host
      port := (s.databasePort.filter (· ≠ 0)).getD 5432
      database := database }

/-- The settings with a database address, built from its parts where it is not given. -/
def withDsn (s : Settings) : Settings :=
  if s.dsn = "" then { s with dsn := ((dsnParts? s).map DsnParts.text).getD "" } else s

/-! ## Reading -/

open Schema

/-- A text without the blanks around it; whatever else is given, and a blank text, is no text. -/
def blankAsNone : Json → Checked (Option String)
  | .str s => .ok (filled (some (Text.strip s)))
  | _ => .ok none

/-- The texts that are not blank, without the blanks around them. -/
def strippedTexts (texts : List String) : List String := (texts.map Text.strip).filter (· ≠ "")

/-- The services in a list, or in a text with commas between them. -/
def serviceNames : Json → List String
  | .arr items => strippedTexts (items.filterMap Json.asString?)
  | .str s => strippedTexts (s.splitOn ",")
  | _ => []

/-- A list of services has to consist of texts. -/
def checkServices (ms : Members) : Except Failure Unit :=
  match Members.get? "CREDENTIAL_SERVICES" ms with
  | some (.arr items) => if items.all fun v => v.asString?.isSome then .ok () else .error (.kind .property)
  | _ => .ok ()

def readSettings (ms : Members) : Checked Settings :=
  Settings.mk <$> withDefault ms "N8N_BASE_URL" (fun v => Text.stripSlashes <$> text v) "http://localhost:5678"
    <*> withDefault ms "N8N_BASIC_AUTH_USER" text "admin"
    <*> withDefault ms "N8N_BASIC_AUTH_PASSWORD" text "admin"
    <*> withDefault ms "N8N_API_KEY" blankAsNone none
    <*> withDefault ms "N8N_API_TIMEOUT" float (.ofNat 30)
    <*> withDefault ms "PG_DSN" text ""
    <*> nullable ms "DB_POSTGRESDB_HOST" text
    <*> withDefault ms "DB_POSTGRESDB_PORT" (Schema.optional integer) (some 5432)
    <*> nullable ms "DB_POSTGRESDB_DATABASE" text
    <*> nullable ms "DB_POSTGRESDB_USER" text
    <*> nullable ms "DB_POSTGRESDB_PASSWORD" text
    <*> nullable ms "DB_POSTGRESDB_SCHEMA" text
    <*> withDefault ms "DB_TABLE_PREFIX" text ""
    <*> withDefault ms "LOG_LEVEL" text "INFO"
    <*> withDefault ms "POLL_INTERVAL_SECONDS" float (.ofNat 1)
    <*> withDefault ms "POLL_MAX_ATTEMPTS" integer 60
    <*> withDefault ms "COST_PER_TOKEN" float (Decimal.toDouble ⟨false, 2, -6⟩)
    <*> withDefault ms "COST_CURRENCY" text "USD"
    <*> withDefault ms "DEPLOYMENT_REGISTRY_FILE" blankAsNone (some ".n8n_deployments.json")
    <*> withDefault ms "CREDENTIAL_SYNC_MAX_ATTEMPTS" integer 3
    <*> withDefault ms "CREDENTIAL_SERVICES" (fun v => .ok (serviceNames v)) []
    <*> withDefault ms "OTEL_EXPORTER_OTLP_ENDPOINT" blankAsNone none
    <*> withDefault ms "OTEL_EXPORTER_OTLP_TIMEOUT" integer 30
    <*> withDefault ms "OTEL_SERVICE_NAME" text "n8n-prompt-chains"

/-- The settings in a record of given values. -/
def read (ms : Members) : Except Failure Settings := do
  checkServices ms
  let s ← (readSettings ms).toExcept "Settings"
  pure s.withDsn

/-- The names of all settings. -/
def names : List String :=
  ["N8N_BASE_URL", "N8N_BASIC_AUTH_USER", "N8N_BASIC_AUTH_PASSWORD", "N8N_API_KEY", "N8N_API_TIMEOUT", "PG_DSN",
    "DB_POSTGRESDB_HOST", "DB_POSTGRESDB_PORT", "DB_POSTGRESDB_DATABASE", "DB_POSTGRESDB_USER",
    "DB_POSTGRESDB_PASSWORD", "DB_POSTGRESDB_SCHEMA", "DB_TABLE_PREFIX", "LOG_LEVEL", "POLL_INTERVAL_SECONDS",
    "POLL_MAX_ATTEMPTS", "COST_PER_TOKEN", "COST_CURRENCY", "DEPLOYMENT_REGISTRY_FILE",
    "CREDENTIAL_SYNC_MAX_ATTEMPTS", "CREDENTIAL_SERVICES", "OTEL_EXPORTER_OTLP_ENDPOINT",
    "OTEL_EXPORTER_OTLP_TIMEOUT", "OTEL_SERVICE_NAME"]

/-- The value of a setting in a list of variables, whose names are compared without regard to case. -/
def valueNamed? {α : Type} (name : String) (values : List (String × α)) : Option α :=
  EnvFile.lastValue? (Text.lower name) (values.map fun v => (Text.lower v.1, v.2))

/-- The given value of each setting that has one. -/
def givenValues (given : Members) (env : EnvFile.Variables) (file : List EnvFile.Assignment) : Members :=
  names.filterMap fun name =>
    let direct := valueNamed? name given
    let outer := (valueNamed? name env).map Json.str
    let inner := ((valueNamed? name file).join).map Json.str
    (direct <|> outer <|> inner).map fun v => (name, v)

/-- The settings given directly, by the surroundings, and by the text of a file of variables. -/
def load (given : Members) (env : EnvFile.Variables) (envFile : Option String) : Except Failure Settings :=
  read (givenValues given env ((envFile.map (EnvFile.resolve env)).getD []))

end Settings

end PromptGraph

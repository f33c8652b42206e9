import AccessGrants.Names
import AccessGrants.Policy
import AccessGrants.Store.Paging
import AccessGrants.Text.Integer
import AccessGrants.Text.KeyPath
import AccessGrants.Text.Lowercase
import AccessGrants.Word

/-!
# AccessGrants.Settings

What an operator sets through environment variables.

* `Environment`         — development, or production, where every service setting must be given.
* `SettingsError`       — why variables are refused.
* `LayeredSettings`     — what is set below `APP__`, where keys may lead into tables and lists.
* `Settings.ofVariables`— reads the settings; the first fault in the order of reading is the error.
-/

namespace AccessGrants

inductive Environment where
  | dev
  | prod
  deriving DecidableEq, Repr, Inhabited

inductive SettingsError where
  /-- A layered variable has no value of its type. -/
  | layered
  /-- The name of an environment, in lower case. -/
  | unknownEnvironment (name : String)
  | unknownValidation (mode : String)
  | missing (key : String)
  | missingInProduction (key : String)
  | notANumber (key : String) (error : Text.IntegerError)
  | zeroPort
  | zeroPageSize
  | grantPolicy (error : GrantPolicyError)
  deriving DecidableEq, Repr

namespace SettingsError

def message : SettingsError → String
  | layered => "invalid layered setting"
  | unknownEnvironment name => "unknown environment '" ++ name ++ "'"
  | unknownValidation mode => "Invalid link schema validation mode: " ++ mode
  | missing key => key ++ " is required but not set"
  | missingInProduction key => key ++ " is required in production but not set"
  | notANumber key error => key ++ ": " ++ error.message
  | zeroPort => "PORT must be greater than 0"
  | zeroPageSize => "STORE_PAGE_SIZE must be positive"
  | grantPolicy error => error.message

end SettingsError

namespace Environment

/-- Reads the name of an environment in any case. -/
def parse (text : String) : Except SettingsError Environment :=
  let name := Text.lowercase text
  if name = "dev" ∨ name = "development" then .ok dev
  else if name = "prod" ∨ name = "production" then .ok prod
  else .error (.unknownEnvironment name)

end Environment

namespace SchemaValidation

/-- Reads the name of a mode in any case. -/
def parse (text : String) : Except SettingsError SchemaValidation :=
  let mode := Text.lowercase text
  if mode = "deferred" then .ok deferred
  else if mode = "enforced" then .ok enforced
  else .error (.unknownValidation text)

end SchemaValidation

/-- The settings that any service has. They are layered under the name `APP__`, in any case. -/
structure LayeredSettings where
  port : Nat
  environment : Environment
  logLevel : String
  deriving DecidableEq, Repr, Inhabited

structure Settings where
  port : Nat
  environment : Environment
  logLevel : String
  serviceName : String
  mongoUri : String
  mongoDatabase : String
  pageSize : Nat
  registryUrl : String
  registryTimeout : Nat
  argOptionsUrl : String
  adminGroup : String
  schemaValidation : SchemaValidation
  policy : GrantPolicy
  otlpEndpoint : Option String
  deriving DecidableEq, Repr, Inhabited

/-- Names and texts, in the order in which the environment lists them. -/
abbrev Variables := List (String × String)

/-- An order that the rows of a table are put in. -/
abbrev RowOrder := List (String × String) → List (String × String)

/-- What a name of the layer stands for: a text, or a table or a list where longer keys lead to. Of a
table only the names are kept. -/
inductive LayeredValue where
  | text (s : String)
  | table (names : Names)
  | list
  deriving DecidableEq

namespace LayeredValue

/-- What is there after a text was set at the end of further steps. What cannot be gone into is
replaced. -/
def set (before : Option LayeredValue) (indexed : Bool) (steps : List KeyPath.Step)
    (value : String) : LayeredValue :=
  if indexed then list
  else
    match steps, before with
    | [], _ => text value
    | step :: _, some (table names) => table (names.insert step.name)
    | step :: _, _ => table (.ofNames [step.name])

end LayeredValue

namespace LayeredSettings

def layerName : String := "app__"

/-- The key of a variable of the layer is what stands behind the name of the layer, in lower case. -/
def key? (name : String) : Option String :=
  let name := (Text.lowercase name).toList
  if layerName.toList.isPrefixOf name then
    some (String.ofList (KeyPath.pointed (name.drop layerName.length)))
  else none

/-- The texts of the layer by key. Of variables with one key the last counts. -/
def table (vars : Variables) : Parameters :=
  .ofPairs (vars.filterMap fun (name, text) => (key? name).map fun key => (key, text))

/-- What a name stands for after one more row. A key that does not lead anywhere is a name of its
own. -/
def place (name : String) (before : Option LayeredValue) (row : String × String) :
    Option LayeredValue :=
  match KeyPath.steps? row.1.toList with
  | some (step :: steps) =>
    if step.name = name then some (.set before step.indexed steps row.2) else before
  | _ => before

def value? (rows : List (String × String)) (name : String) : Option LayeredValue :=
  rows.foldl (place name) none

def greatestPort : Nat := 65535

/-- A port is a number, or one of the words for a switch: on is 1 and off is 0. -/
def readPort : LayeredValue → Except SettingsError Nat
  | .text text =>
    let word := Text.lowercase text
    if word = "true" ∨ word = "on" ∨ word = "yes" then .ok 1
    else if word = "false" ∨ word = "off" ∨ word = "no" then .ok 0
    else
      match Text.parseUnsigned greatestPort text with
      | .ok n => .ok n
      | .error _ => .error .layered
  | .table _ | .list => .error .layered

/-- Only the two short names of an environment are allowed, in lower case. -/
def environmentOf (name : String) : Except SettingsError Environment :=
  if name = "dev" then .ok .dev
  else if name = "prod" then .ok .prod
  else .error .layered

/-- A table of one name stands for the name. -/
def readEnvironment : LayeredValue → Except SettingsError Environment
  | .text name => environmentOf name
  | .table names =>
    match names.toList with
    | [name] => environmentOf name
    | _ => .error .layered
  | .list => .error .layered

def readText : LayeredValue → Except SettingsError String
  | .text text => .ok text
  | .table _ | .list => .error .layered

/-- The rows of the table are set in an order that is left to chance. It makes a difference only to a
name that several keys lead to. -/
def ofVariables (order : RowOrder) (vars : Variables) : Except SettingsError LayeredSettings := do
  let rows := order (table vars).toList
  let port ← ((value? rows "port").map readPort).getD (.ok 8080)
  let environment ← ((value? rows "environment").map readEnvironment).getD (.ok .dev)
  let logLevel ← ((value? rows "log_level").map readText).getD (.ok "info")
  return ⟨port, environment, logLevel⟩

end LayeredSettings

namespace Settings

/-- The value of a variable. One that is not set has its default, but not in production. -/
def get (vars : Variables) (environment : Environment) (key : String) (default : Option String) :
    Except SettingsError String :=
  match vars.lookup key, environment, default with
  | some value, _, _ => .ok value
  | none, .prod, _ => .error (.missingInProduction key)
  | none, .dev, some value => .ok value
  | none, .dev, none => .error (.missing key)

def readNumber (read : String → Except Text.IntegerError α) (key : String) (text : String) :
    Except SettingsError α :=
  match read text with
  | .ok a => .ok a
  | .error e => .error (.notANumber key e)

/-- A number that fits an unsigned word. -/
def getUnsigned (vars : Variables) (environment : Environment) (key default : String) :
    Except SettingsError Nat := do
  readNumber (Text.parseUnsigned Word.greatest) key (← get vars environment key (some default))

/-- A number that fits a signed word. -/
def getSigned (vars : Variables) (environment : Environment) (key default : String) :
    Except SettingsError Int := do
  readNumber (Text.parseSigned Word.leastSigned Word.greatestSigned) key
    (← get vars environment key (some default))

def checkPolicy (policy : GrantPolicy) : Except SettingsError Unit :=
  match policy.validate with
  | .ok () => .ok ()
  | .error e => .error (.grantPolicy e)

def validate (s : Settings) : Except SettingsError Unit :=
  if s.port = 0 then .error .zeroPort
  else if s.pageSize = 0 then .error .zeroPageSize
  else checkPolicy s.policy

/-- The mode of schema validation may be left out in production too. -/
def ofVariables (order : RowOrder) (vars : Variables) : Except SettingsError Settings := do
  let layered ← LayeredSettings.ofVariables order vars
  let environment ← Environment.parse ((vars.lookup "ENVIRONMENT").getD "dev")
  let serviceName ← get vars environment "SERVICE_NAME" (some "access-service")
  let mongoUri ← get vars environment "MONGODB_URI" none
  let mongoDatabase ← get vars environment "MONGODB_DATABASE" (some "access_db")
  let pageSize ← getUnsigned vars environment "STORE_PAGE_SIZE" (Nat.repr defaultPageSize)
  let registryUrl ← get vars environment "PROVIDER_REGISTRY_URL" none
  let registryTimeout ← getUnsigned vars environment "PROVIDER_REGISTRY_TIMEOUT_SECS" "10"
  let argOptionsUrl ← get vars environment "ARG_OPTIONS_URL" none
  let adminGroup ← get vars environment "ADMIN_GROUP" (some "access_admins")
  let schemaValidation ←
    SchemaValidation.parse ((vars.lookup "LINK_SCHEMA_VALIDATION").getD "deferred")
  let defaultDuration ← getSigned vars environment "DEFAULT_GRANT_DURATION_SECS" "3600"
  let maxDuration ← getSigned vars environment "MAX_GRANT_DURATION_SECS" "86400"
  let settings : Settings :=
    { port := layered.port, environment, logLevel := layered.logLevel, serviceName, mongoUri,
      mongoDatabase, pageSize, registryUrl, registryTimeout, argOptionsUrl, adminGroup,
      schemaValidation, policy := ⟨defaultDuration, maxDuration⟩,
      otlpEndpoint := (vars.lookup "OTLP_ENDPOINT").filter (· ≠ "") }
  validate settings
  return settings

end Settings

end AccessGrants

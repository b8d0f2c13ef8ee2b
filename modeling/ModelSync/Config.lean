import ModelSync.Authorization

/-! Client configuration, read from an environment of variables. -/
namespace ModelSync

/-- Named variables. A variable that does not hold text counts as unset. -/
abbrev Environment := String → Option String

/-- How a client chooses authorization types, and what it logs. -/
structure Config where
  /-- Used where candidates do not come from rules. -/
  defaultAuthType : AuthType := .apiKey
  /-- Take candidates from the rules of each model. -/
  multiAuth : Bool := false
  logFilter : String := "syncql_client=debug"
deriving DecidableEq

/-- A variable whose value makes no sense. -/
inductive ConfigError where
  | invalidAuthMode (raw : String)
  | invalidMultiAuth (raw : String)
deriving DecidableEq

def ConfigError.message : ConfigError → String
  | .invalidAuthMode raw => s!"Invalid SYNCQL_AUTH_MODE value: {raw}"
  | .invalidMultiAuth raw => s!"Invalid SYNCQL_MULTI_AUTH value: {raw}"

namespace Config

/-- The spellings of a flag. -/
def flags : List (String × Bool) :=
  [("1", true), ("true", true), ("yes", true), ("on", true),
    ("0", false), ("false", false), ("no", false), ("off", false)]

/-- Read a flag in either case, ignoring white space around it. -/
def flagOfText? (text : String) : Option Bool := flags.lookup (Text.trim text).toLower

/-- Read the type used by default. -/
def readAuthType (environment : Environment) : Except ConfigError AuthType :=
  match environment "SYNCQL_AUTH_MODE" with
  | none => .ok ({} : Config).defaultAuthType
  | some raw =>
    match AuthType.ofText? raw with
    | some type => .ok type
    | none => .error (.invalidAuthMode raw)

/-- Read whether candidates come from rules. -/
def readMultiAuth (environment : Environment) : Except ConfigError Bool :=
  match environment "SYNCQL_MULTI_AUTH" with
  | none => .ok ({} : Config).multiAuth
  | some raw =>
    match flagOfText? raw with
    | some flag => .ok flag
    | none => .error (.invalidMultiAuth raw)

/-- Read a configuration; unset variables take their defaults. -/
def ofEnvironment (environment : Environment) : Except ConfigError Config := do
  let defaultAuthType ← readAuthType environment
  let multiAuth ← readMultiAuth environment
  let logFilter := (environment "SYNCQL_LOG").getD ({} : Config).logFilter
  return ⟨defaultAuthType, multiAuth, logFilter⟩

end Config

end ModelSync

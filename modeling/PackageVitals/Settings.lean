import PackageVitals.Number.Reading
import PackageVitals.Settings.SystemMap
import PackageVitals.Text.Quoted

/-!
# Settings

What can be set from outside is read from eight environment variables. One
that is absent or empty leaves the default, any other loses the blanks
around it. The system map is looked at first, then the log level, then the
numbers, all of which are checked before any is refused.
-/

namespace PackageVitals

/-- The environment: variables with their values. -/
abbrev Environment := List (String × String)

/-- The value of a variable that is present and not empty. -/
def Environment.get? (env : Environment) (name : String) : Option String :=
  ((List.find? (fun v => v.1 == name) env).map (·.2)).filter (!·.isEmpty)

/-- How much is logged, by the names that can be asked for. -/
inductive LogLevel where
  | critical | fatal | error | warn | warning | info | debug | notset
  deriving DecidableEq, Inhabited

namespace LogLevel

/-- Every level. -/
def all : List LogLevel := [critical, fatal, error, warn, warning, info, debug, notset]

/-- The name of a level. -/
def name : LogLevel → String
  | critical => "CRITICAL"
  | fatal => "FATAL"
  | error => "ERROR"
  | warn => "WARN"
  | warning => "WARNING"
  | info => "INFO"
  | debug => "DEBUG"
  | notset => "NOTSET"

/-- The level that a name in upper case asks for. -/
def ofName? (s : String) : Option LogLevel :=
  all.find? (·.name == s)

/-- The level under its first name: two levels have a second one. -/
def main : LogLevel → LogLevel
  | fatal => critical
  | warn => warning
  | l => l

end LogLevel

/-- The text of a problem with the configuration, where this library wrote
one. -/
def ConfigProblem.message? : ConfigProblem → Option String
  | badMapping pair => some ("Invalid deps.dev system mapping: " ++ Text.quote pair)
  | unknownLevel name => some ("Unknown log level: " ++ name)
  | refused _ => none
  | unspecified => none

/-- **The settings.** -/
structure Settings where
  /-- The token sent to GitHub. -/
  githubToken : Option String := none
  /-- The root of the deps.dev interface. -/
  depsDevUrl : String := "https://api.deps.dev"
  /-- The root of the GitHub interface. -/
  githubUrl : String := "https://api.github.com"
  /-- How many seconds a request may take. -/
  timeout : Double := .ofInt 30
  /-- How often contributor statistics are asked for. -/
  statsAttempts : Int := 5
  /-- How many seconds lie between two such requests. -/
  statsInterval : Double := .ofInt 2
  /-- How much is logged. -/
  logLevel : LogLevel := .warning
  /-- The systems of deps.dev. -/
  systems : SystemMap := .standard
  deriving Inhabited

namespace Settings

/-- The variables that are read. -/
def variableNames : List String := [
  "GITHUB_TOKEN", "PKGHEALTH_DEPS_DEV_URL", "PKGHEALTH_GITHUB_API_URL",
  "PKGHEALTH_HTTP_TIMEOUT", "PKGHEALTH_STATS_MAX_ATTEMPTS", "PKGHEALTH_STATS_RETRY_INTERVAL",
  "PKGHEALTH_LOG_LEVEL", "PKGHEALTH_DEPS_DEV_SYSTEMS"]

/-- A variable without the blanks around it. -/
def trimmed? (env : Environment) (name : String) : Option String :=
  (env.get? name).map Text.strip

/-- A number setting: the default where it is not set, or an issue. -/
def number (env : Environment) (name field : String) (default : α)
    (read : List Char → Except Complaint α) (inBounds : α → Bool) (outOfBounds : Complaint) :
    Except Issue α :=
  match trimmed? env name with
  | none => .ok default
  | some s =>
    match read s.toList with
    | .error c => .error ⟨[field], c⟩
    | .ok x => if inBounds x then .ok x else .error ⟨[field], outOfBounds⟩

/-- The seconds a request may take: more than none. -/
def timeoutOf (env : Environment) : Except Issue Double :=
  number env "PKGHEALTH_HTTP_TIMEOUT" "http_timeout" (.ofInt 30)
    Number.readPlainDouble Double.isPositive .notAbove

/-- The attempts at contributor statistics: one or more. -/
def attemptsOf (env : Environment) : Except Issue Int :=
  number env "PKGHEALTH_STATS_MAX_ATTEMPTS" "stats_max_attempts" 5
    Number.readPlainInt (1 ≤ ·) .below

/-- The seconds between two attempts: none or more. -/
def intervalOf (env : Environment) : Except Issue Double :=
  number env "PKGHEALTH_STATS_RETRY_INTERVAL" "stats_retry_interval" (.ofInt 2)
    Number.readPlainDouble Double.isNonnegative .below

/-- The log level asked for. -/
def levelOf (env : Environment) : Except ConfigProblem LogLevel :=
  match trimmed? env "PKGHEALTH_LOG_LEVEL" with
  | none => .ok .warning
  | some s =>
    match LogLevel.ofName? (Text.upperCase s) with
    | some l => .ok l
    | none => .error (.unknownLevel s)

/-- The system map asked for. -/
def systemsOf (env : Environment) : Except ConfigProblem SystemMap :=
  match env.get? "PKGHEALTH_DEPS_DEV_SYSTEMS" with
  | none => .ok .standard
  | some s => SystemMap.parse s

/-- The issue of a refused setting, if it is refused. -/
def issue? : Except Issue α → Option Issue
  | .ok _ => none
  | .error i => some i

/-- **The settings that an environment asks for.** -/
def ofEnvironment (env : Environment) : Except ConfigProblem Settings := do
  let systems ← systemsOf env
  let logLevel ← levelOf env
  match timeoutOf env, attemptsOf env, intervalOf env with
  | .ok timeout, .ok statsAttempts, .ok statsInterval =>
    return {
      githubToken := trimmed? env "GITHUB_TOKEN"
      depsDevUrl := (trimmed? env "PKGHEALTH_DEPS_DEV_URL").getD "https://api.deps.dev"
      githubUrl := (trimmed? env "PKGHEALTH_GITHUB_API_URL").getD "https://api.github.com"
      timeout, statsAttempts, statsInterval, logLevel, systems }
  | timeout, attempts, interval =>
    .error (.refused ([issue? timeout, issue? attempts, issue? interval].filterMap id))

end Settings

end PackageVitals

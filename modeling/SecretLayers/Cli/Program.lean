import SecretLayers.Cli.Arguments
import SecretLayers.Cli.DotEnv
import SecretLayers.Config.Environment
import SecretLayers.Config.File
import SecretLayers.Loader
/-!
The program: what a command line does and what it says.

An error is reported with everything that led to it. The session of a load is shut down
whether or not the load succeeded.
-/
namespace SecretLayers.Cli

/-- What the program finds around it. -/
structure Place where
  machine : Auth.Machine
  /-- The variables of the environment. -/
  environment : DotEnv.Variables
  /-- What identifies this run to the store. -/
  nonce : String
  now : Instant
  /-- How instants are shown. -/
  timeText : Instant → String

/-- What the program leaves behind. -/
structure Outcome where
  exit : Nat
  output : String := ""
  errors : String := ""
  deriving DecidableEq, Repr

/-! ## Reports -/

/-- A text whose further lines are indented. -/
def indented (first further s : String) : String :=
  first ++ ("\n" ++ further).intercalate (Text.splitAt '\n' s)

def numbered (n : Nat) (s : String) : String :=
  let number := toString n
  indented (padLeft number ++ ": ") "       " s
where
  padLeft (s : String) : String := String.ofList (List.replicate (5 - s.length) ' ') ++ s

/-- The causes of an error; several of them are numbered. -/
def causesText : List String → String
  | [] => ""
  | [cause] => "\n\nCaused by:\n" ++ indented "    " "    " cause
  | causes => "\n\nCaused by:\n" ++ "\n".intercalate (causes.mapIdx numbered)

def report (message : String) (causes : List String) : String :=
  "Error: " ++ message ++ causesText causes ++ "\n"

def failed (message : String) (causes : List String) : Outcome :=
  { exit := 1, errors := report message causes }

/-- An error as it is. -/
def failedWith (e : Error) : Outcome := failed e.message e.causes

/-- An error in a context. -/
def failedIn (context : String) (e : Error) : Outcome := failed context (e.message :: e.causes)

/-! ## Usage -/

def name : String := "vault-config"

def version : String := "0.1.0"

def usage : String := "Usage: " ++ name ++ " [OPTIONS] <COMMAND>\n"

def helpText : String :=
  "Resolve application configuration from a Vault-compatible secret store\n\n" ++ usage ++
    "\nCommands:\n" ++
    "  contexts  Print the generic secret contexts, most specific first\n" ++
    "  resolve   Compose the configuration and print the merged properties\n" ++
    "  health    Query the secret store's health endpoint\n" ++
    "  help      Print this message or the help of the given subcommand(s)\n" ++
    "\nOptions:\n" ++
    "  -c, --config <CONFIG>      Configuration file (YAML or JSON); VAULT_* environment variables are used when omitted\n" ++
    "  -p, --profiles <PROFILES>  Active profiles, comma-separated; defaults to VAULT_PROFILES\n" ++
    "  -v, --verbose              Enable verbose logging\n" ++
    "      --json-logs            Emit logs as JSON lines\n" ++
    "  -h, --help                 Print help\n" ++
    "  -V, --version              Print version\n"

/-- What is wrong with a command line. -/
def Refusal.message : Refusal → String
  | help | version | nothingGiven => ""
  | missingCommand => "'" ++ name ++ "' requires a subcommand but one was not provided"
  | unknownCommand => "unrecognized subcommand"
  | unknownArgument => "unexpected argument found"
  | invalidValue => "a value is missing or invalid"
  | needlessValue => "unexpected value for an argument"
  | repeated => "an argument cannot be used multiple times"

def refused : Refusal → Outcome
  | .help => { exit := 0, output := helpText }
  | .version => { exit := 0, output := name ++ " " ++ version ++ "\n" }
  | .nothingGiven => { exit := 2, errors := helpText }
  | r =>
    { exit := 2
      errors := "error: " ++ r.message ++ "\n\n" ++ usage ++ "\nFor more information, try '--help'.\n" }

/-! ## Settings -/

def dotEnvPath : String := ".env"

/-- The variables that count, and a warning where their file cannot be read to its end. A
file that is missing is passed over. -/
def variablesOf (files : Files) (environment : DotEnv.Variables) : DotEnv.Variables × String :=
  match files.read dotEnvPath with
  | .ok text =>
    let (environment, fault) := DotEnv.extend environment text
    (environment, fault.elim "" fun f => warning f.message)
  | .error .notFound | .error .isDirectory => (environment, "")
  | .error fault => (environment, warning fault.message)
where
  warning (reason : String) : String := "Warning: Error loading .env file: " ++ reason ++ "\n"

/-- The configuration of a file, or of the environment where no file is given. -/
def configuration (files : Files) (environment : DotEnv.Variables) (i : Invocation) :
    Except Error Config :=
  match i.config with
  | some path => Config.ofFile files path
  | none => Config.ofVariables fun name => environment.lookup name

/-- The profiles of the command line; those of a variable where there are none. -/
def activeProfiles (given : List String) (fallback : Option String) : List String :=
  Contexts.nonBlank (if given.isEmpty then (fallback.map (Text.splitAt ',')).getD [] else given)

/-! ## Commands -/

def printContexts (c : Config) (profiles : List String) : Outcome :=
  { exit := 0, output := String.join ((c.generic.contexts profiles).map (· ++ "\n")) }

/-- The outcome of a load. -/
def shownView (p : Place) (showValues : Bool) (format : Format) :
    Timed (Except Error View) → Outcome
  | ⟨_, .error e⟩ => failedIn "Failed to compose configuration" e
  | ⟨instant, .ok view⟩ =>
    { exit := 0, output := renderView view (p.timeText instant) showValues format }

def resolve (p : Place) (c : Config) (profiles : List String) (showValues : Bool)
    (format : Format) : Dialogue Outcome :=
  match Loader.ofConfig c Backend.Factory.builtin p.machine p.nonce true with
  | .error e => .done (failedWith e)
  | .ok loader =>
    (loader.load profiles p.now).bind fun (view, loader) =>
      loader.shutdown.map fun _ => shownView p showValues format view

def healthRow (h : Store.Health) : Row :=
  [("initialized", .flag h.initialized), ("sealed", .flag h.isSealed), ("standby", .flag h.standby),
    ("version", h.version.elim .absent .text)]

/-- A record where a table is asked for. -/
def recordFormat : Format → Format
  | .table => .yaml
  | format => format

def notReady : String := "secret store is not ready"

/-- The health as it is shown, and a failure if secrets cannot be read. -/
def shownHealth (format : Format) (h : Store.Health) : Outcome :=
  let output := (renderRow? (healthRow h) (recordFormat format)).getD "" ++ "\n"
  if h.isReady then { exit := 0, output } else { failed notReady [] with output }

def checkHealth (c : Config) (format : Format) : Dialogue Outcome :=
  match Store.Client.ofAddress c.address c.namespaceName with
  | .error e => .done (failedWith e)
  | .ok client => client.health.map fun
    | .error e => failedIn "Health check failed" e
    | .ok h => shownHealth format h

def perform (p : Place) (environment : DotEnv.Variables) (i : Invocation) : Dialogue Outcome :=
  match configuration p.machine.files environment i with
  | .error e => .done (failedIn "Failed to load configuration" e)
  | .ok c =>
    let profiles := activeProfiles i.profiles (environment.lookup "VAULT_PROFILES")
    match i.command with
    | .contexts => .done (printContexts c profiles)
    | .resolve showValues format => resolve p c profiles showValues format
    | .health format => checkHealth c format

/-- The invocation and the configuration, as far as the files at hand tell. -/
def outlook (p : Place) (args : List String) : Option (Invocation × Except Error Config) :=
  let (environment, _) := variablesOf p.machine.files p.environment
  (Invocation.parse args).toOption.map fun i => (i, configuration p.machine.files environment i)

/-- The files that a run may read, as far as those at hand tell. The interfaces of the
machine are given by name. -/
def filesRead (p : Place) (args interfaces : List String) : List String :=
  dotEnvPath :: match outlook p args with
    | none => []
    | some (i, c) => i.config.toList ++ match c with
      | .error _ => []
      | .ok c => c.kubernetes.tokenFile ::
        (c.appId.networkInterface.toList ++ interfaces).map fun name =>
          Files.join (Files.join Auth.interfaceRoot name) "address"

/-- The program at a place, with its arguments. -/
def run (p : Place) (args : List String) : Dialogue Outcome :=
  let (environment, warning) := variablesOf p.machine.files p.environment
  let warned (o : Outcome) : Outcome := { o with errors := warning ++ o.errors }
  match Invocation.parse args with
  | .error r => .done (warned (refused r))
  | .ok i => (perform p environment i).map warned

end SecretLayers.Cli

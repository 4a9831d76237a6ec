import Enrollment.CommandLine
import Enrollment.Config
import Enrollment.LogFilter

/-!
# The program

What the program does from its arguments and variables up to its exit. The arguments are
read first, the configuration after them, and only then is anything asked of the inventory.
-/

namespace Enrollment

namespace Program

open Registration

def versionLine : String := "registrar 0.1.0"

/-- The target under which the program reports its events. -/
def logTarget : String := "registrar"

/-- The line that reports a failed command. -/
def failedMessage : String := "Command failed"

/-- The fields of the event that reports a failed command. -/
def reportFields : List String := ["message", "terminal", "reason"]

def failureEvent : LogEvent := ⟨logTarget, .error, reportFields⟩

/-- A failure as the log has it: one object on a line. -/
def reportLine (failure : Failure) : String :=
  let field (name : String) (value : List Char) : List Char :=
    Json.quote name ++ ':' :: value
  let members (fields : List (List Char)) : List Char :=
    '\x7b' :: [','].intercalate fields ++ ['\x7d']
  String.ofList <| members
    [field "level" (Json.quote "ERROR"),
      field "fields" (members
        [field "message" (Json.quote failedMessage),
          field "terminal" (toString failure.isTerminal).toList,
          field "reason" (Json.quote failure.reason)]),
      field "target" (Json.quote logTarget)]

/-- What is left when the program has ended. `reported` is the failure in the log, if the
log shows it. -/
structure Ending where
  exit : Nat
  lines : List String := []
  reported : Option Failure := none
  startupError : Option String := none
  deriving DecidableEq, Repr

/-- An error before the program could start, with its causes. -/
def startupReport : List String → String
  | [] => "Error:"
  | [message] => "Error: " ++ message
  | message :: causes =>
    "Error: " ++ message ++ "\n\nCaused by:" ++ String.join (causes.map ("\n    " ++ ·))

/-- A command that is ready to be carried out. -/
structure Job where
  config : Config
  client : Inventory.Client
  command : Command
  showsErrors : Bool
  deriving DecidableEq, Repr

/-- The filter of the environment, or else that of the configuration. -/
def filterFor (lookup : String → Option String) (config : Config) : LogFilter :=
  ((lookup "RUST_LOG").bind LogFilter.parse?).getD (LogFilter.parseLenient config.logLevel)

/-- The variables that the program reads. -/
def variableNames : List String :=
  ["REGISTRAR_ACCOUNT_ID", "REGISTRAR_HOST_URL", "REGISTRAR_SKIP_TLS_VALIDATION",
   "REGISTRAR_HOST_ALIAS_IP", "REGISTRAR_CLOUD_ID", "REGISTRAR_CLUSTER_ID",
   "REGISTRAR_CLUSTER_NAME", "REGISTRAR_TOKEN_REF", "REGISTRAR_SECRETS_DIR",
   "REGISTRAR_NAMESPACE", "REGISTRAR_API_SERVER_URL", "REGISTRAR_CREDENTIAL_ID",
   "REGISTRAR_API_SERVICE_ID", "REGISTRAR_K8S_VERSION", "REGISTRAR_DISTRO",
   "REGISTRAR_LOG_LEVEL", "RUST_LOG"]

/-- What there is to do, or how the program ends without doing anything. -/
def start [Url.Idna] (args : List String) (lookup : String → Option String) :
    Except Ending Job :=
  match CommandLine.parse (lookup "REGISTRAR_CLUSTER_ID") args with
  | .misuse => .error { exit := 2 }
  | .help => .error { exit := 0 }
  | .version => .error { exit := 0, lines := [versionLine] }
  | .run command =>
    match Config.ofLookup lookup with
    | .error fault => .error { exit := 1, startupError := some (startupReport fault.messages) }
    | .ok config =>
      match Inventory.Client.connect config.hostUrl config.connection with
      | .error failure =>
        .error { exit := 1, startupError := some (startupReport [failure.reason]) }
      | .ok client =>
        .ok ⟨config, client, command, (filterFor lookup config).shows failureEvent⟩

/-- The id of the cluster that a command is about. -/
def requiredId (id : Option String) : Procedure String :=
  match id with
  | some id => return id
  | none => throw (.refused .clusterIdMissing)

/-- A command as a procedure; it yields the lines that it prints. -/
def procedure (cluster : LocalCluster) (settings : Settings) (poll : PollPolicy) :
    Command → Procedure (List String)
  | .register => return [← register cluster settings]
  | .unregister id => do
    unregister cluster settings poll (← requiredId id)
    return []
  | .status id => do
    let managed ← isManaged cluster settings (← requiredId id)
    return [if managed then "managed" else "unmanaged"]

/-- How the program ends after its procedure. -/
def Job.ending (job : Job) : Except Failure (List String) → Ending
  | .ok lines => { exit := 0, lines := lines }
  | .error failure => { exit := 1, reported := if job.showsErrors then some failure else none }

/-- Carry a job out over a network. -/
def Job.run [Url.Idna] {σ : Type} (job : Job) (net : Http.Network σ)
    (apiToken : String → Except LookupFault String) : StateM (Http.Wire σ) Ending := do
  let cluster := job.config.localCluster apiToken
  let flow := (procedure cluster job.config.settings .standard job.command).run
  return job.ending (← flow.run (overHttp net job.client))

end Program

end Enrollment

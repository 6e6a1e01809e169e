import NodeSidecar.Daemon
import NodeSidecar.Json.Write
/-!
# Command line

What the arguments of the program, and the variables of its surroundings, ask
it to do. An argument comes before a variable, and a variable before a default.
What is said of the host and the port takes the place of what the configuration
says.
-/

namespace NodeSidecar

namespace CommandLine

/-- Why arguments cannot be understood. -/
inductive Flaw where
  /-- There is no such option. -/
  | unexpected (argument : String)
  /-- An option without its value. -/
  | valueMissing (option : String)
  /-- An option that is given twice. -/
  | repeated (option : String)
  /-- A value that its option cannot have. -/
  | invalid (option value : String)
  deriving DecidableEq, Repr

/-- The wording of a flaw. -/
def Flaw.message : Flaw → String
  | unexpected argument => s!"unexpected argument {argument}"
  | valueMissing option => s!"a value is required for {option}"
  | repeated option => s!"{option} cannot be used more than once"
  | invalid option value => s!"invalid value {value} for {option}"

/-- How much is logged. -/
inductive Level where
  | trace
  | debug
  | info
  | warn
  | error
  deriving DecidableEq, Repr

/-- The level of a name, in either case; `info` if there is none of that
name. -/
def Level.ofName (name : String) : Level :=
  match name.toLower with
  | "trace" => .trace
  | "debug" => .debug
  | "warn" => .warn
  | "error" => .error
  | _ => .info

/-- Whether lines of information are logged at a level. -/
def Level.showsInfo : Level → Bool
  | trace | debug | info => true
  | warn | error => false

/-- How the program is run. -/
structure Options where
  /-- Where the configuration is. -/
  path : String
  /-- The host to listen on, in place of the configured one. -/
  host : Option String
  /-- The port to listen on, in place of the configured one. -/
  port : Option Nat
  /-- How much is logged. -/
  level : Level
  /-- Whether the log is in JSON. -/
  json : Bool
  deriving DecidableEq, Repr

/-- What is asked of the program. -/
inductive Wish where
  /-- How it is used. -/
  | help
  /-- Its version. -/
  | version
  /-- To be run. -/
  | run (options : Options)
  deriving DecidableEq, Repr

/-- The options that have a value, each with the variable that stands in for
it. -/
def valued : List (String × String) :=
  [("--config", "SIDECAR_CONFIG"), ("--host", "SIDECAR_HOST"), ("--port", "SIDECAR_PORT"),
    ("--log-level", "LOG_LEVEL")]

/-- The option to log in JSON, and the variable that stands in for it. -/
def jsonLog : String × String :=
  ("--log-json", "LOG_JSON")

/-- An argument, cut at its first equals sign. -/
def cut (argument : String) : String × Option String :=
  let (name, rest) := argument.toList.span (· ≠ '=')
  (String.ofList name, if rest.isEmpty then none else some (String.ofList rest.tail))

/-- Adds an option to those that are given. -/
def give (given : List (String × String)) (option value : String) :
    Except Flaw (List (String × String)) :=
  if (given.lookup option).isSome then .error (.repeated option)
  else .ok ((option, value) :: given)

/-- The options that arguments give, after those that are given already; or
what else is asked for first. -/
def collect : List String → List (String × String) →
    Except Flaw (Wish ⊕ List (String × String))
  | [], given => .ok (.inr given)
  | argument :: rest, given =>
    if argument = "--help" || argument = "-h" then .ok (.inl .help)
    else if argument = "--version" || argument = "-V" then .ok (.inl .version)
    else if argument = jsonLog.1 then (give given argument "true").bind (collect rest)
    else if (valued.lookup (cut argument).1).isNone then .error (.unexpected argument)
    else
      match (cut argument).2 with
      | some value => (give given (cut argument).1 value).bind (collect rest)
      | none =>
        match rest with
        | [] => .error (.valueMissing argument)
        | value :: rest => (give given argument value).bind (collect rest)

/-- The value of an option: as it is given, else that of its variable. -/
def valueOf (environment : String → Option String) (given : List (String × String))
    (option : String) : Option String :=
  (given.lookup option).or (((jsonLog :: valued).lookup option).bind environment)

/-- The port that a value spells. -/
def readPort : Option String → Except Flaw (Option Nat)
  | none => .ok none
  | some value =>
    match Text.number? Text.max16 value.toList with
    | some port => .ok (some port)
    | none => .error (.invalid "--port" value)

/-- Whether to log in JSON, as a word says. -/
def readJsonLog : Option String → Except Flaw Bool
  | none | some "false" => .ok false
  | some "true" => .ok true
  | some word => .error (.invalid jsonLog.1 word)

/-- What arguments and variables ask for. -/
def read (environment : String → Option String) (arguments : List String) : Except Flaw Wish :=
  match collect arguments [] with
  | .error flaw => .error flaw
  | .ok (.inl wish) => .ok wish
  | .ok (.inr given) =>
    let value := valueOf environment given
    match readPort (value "--port"), readJsonLog (value jsonLog.1) with
    | .error flaw, _ | .ok _, .error flaw => .error flaw
    | .ok port, .ok json =>
      .ok (.run {
        path := (value "--config").getD "conf/sidecar.yaml"
        host := value "--host"
        port := port
        level := Level.ofName ((value "--log-level").getD "info")
        json := json })

/-- The configuration with the host and the port that the options ask for. -/
def Options.amend (o : Options) (c : Configuration) : Configuration :=
  { c with
    service :=
      { c.service with
        host := o.host.getD c.service.host
        port := o.port.getD c.service.port } }

/-- The program that options and a configuration ask for. -/
def Options.daemon (o : Options) (c : Configuration) : Except Fault Daemon :=
  Daemon.ofConfiguration (o.amend c)

/-- Lines of information as they are logged. -/
def Options.log (o : Options) (lines : List String) : List String :=
  if !o.level.showsInfo then []
  else if o.json then
    lines.map fun line =>
      (Json.object [("level", .string "INFO"), ("message", .string line)]).write fun _ => "null"
  else lines

end CommandLine

end NodeSidecar

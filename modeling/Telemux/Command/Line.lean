import Telemux.Command.Duration
import Telemux.Command.Options
import Telemux.Command.Usage

namespace Telemux

inductive LogFormat where
  | text
  | json
  deriving DecidableEq

inductive LogLevel where
  | error
  | warn
  | info
  | debug
  | trace
  deriving DecidableEq

def OutputFormat.text : OutputFormat → String
  | .json => "json"
  | .table => "table"
  | .pretty => "pretty"

def OutputFormat.ofText? (text : String) : Option OutputFormat :=
  [OutputFormat.json, .table, .pretty].find? (·.text = text)

def LogFormat.name : LogFormat → String
  | .text => "text"
  | .json => "json"

def LogFormat.ofName? (name : String) : Option LogFormat :=
  [LogFormat.text, .json].find? (·.name = name)

def LogLevel.name : LogLevel → String
  | .error => "error"
  | .warn => "warn"
  | .info => "info"
  | .debug => "debug"
  | .trace => "trace"

def LogLevel.ofName? (name : String) : Option LogLevel :=
  [LogLevel.error, .warn, .info, .debug, .trace].find? (·.name = name)

structure Environment where
  url : Option String := none
  site : Option String := none
  deriving DecidableEq

structure SubscribeArguments where
  url : String
  choice : TopicChoice
  count : Option Nat
  reconnectInterval : String
  noReconnect : Bool
  deriving DecidableEq

structure InfoArguments where
  url : String
  site : Option String
  timeout : String
  deriving DecidableEq

inductive Command where
  | subscribe (arguments : SubscribeArguments)
  | info (arguments : InfoArguments)
  | version (extended : Bool)
  deriving DecidableEq

structure CommandLine where
  format : Option OutputFormat
  logFormat : LogFormat
  logLevel : LogLevel
  command : Command
  deriving DecidableEq

namespace CommandLine

def oneOf (read : String → Option α) (value : String) : Except UsageError Unit :=
  if (read value).isSome then .ok () else .error .invalidValue

def isCount (value : String) : Except UsageError Unit :=
  if (parseCount value.toList).isSome then .ok () else .error .unreadableValue

/-- The options that every command accepts, in front of its name or behind it. -/
def commonOptions : List OptionSpec :=
  [{ name := "format", kind := .single, check := oneOf OutputFormat.ofText? },
    { name := "log-format", kind := .single, check := oneOf LogFormat.ofName? },
    { name := "log-level", kind := .single, check := oneOf LogLevel.ofName? },
    { name := "help", kind := .help, letter := some 'h' }]

def programSpec : CommandSpec where
  options := commonOptions ++ [{ name := "version", kind := .version, letter := some 'V' }]
  commands := ["subscribe", "info", "version", "help"]
  arguments := 0

def subscribeSpec : CommandSpec where
  options := commonOptions ++
    [{ name := "topic", kind := .single, check := oneOf TopicName.ofText? },
      { name := "instance", kind := .single },
      { name := "processor", kind := .single },
      { name := "stream", kind := .single },
      { name := "parameter", kind := .repeatable },
      { name := "count", kind := .single, check := isCount },
      { name := "reconnect-interval", kind := .single },
      { name := "no-reconnect", kind := .flag }]
  commands := []
  arguments := 1

def infoSpec : CommandSpec where
  options := commonOptions ++
    [{ name := "instance", kind := .single }, { name := "timeout", kind := .single }]
  commands := []
  arguments := 1

def versionSpec : CommandSpec where
  options := commonOptions ++ [{ name := "extended", kind := .flag }]
  commands := []
  arguments := 0

def scanAll (spec : CommandSpec) (args : List String) : Except UsageError Scan := do
  (← Scan.run spec {} args).scan.settle

/-- The address: the argument, or else what the environment says. -/
def urlOf (env : Environment) (s : Scan) : Except UsageError String :=
  match s.arguments.head? <|> env.url with
  | some url => .ok url
  | none => .error .missingArgument

def siteOf (env : Environment) (s : Scan) : Option String :=
  s.value? "instance" <|> env.site

def subscribeOf (env : Environment) (s : Scan) : Except UsageError Command :=
  match urlOf env s, (s.value? "topic").bind TopicName.ofText? with
  | .ok url, some name =>
    .ok <| .subscribe
      { url
        choice := ⟨name, siteOf env s, s.value? "processor", s.value? "stream", s.values "parameter"⟩
        count := (s.value? "count").bind fun n => parseCount n.toList
        reconnectInterval := (s.value? "reconnect-interval").getD "1s"
        noReconnect := s.has "no-reconnect" }
  | _, _ => .error .missingArgument

def infoOf (env : Environment) (s : Scan) : Except UsageError Command := do
  let url ← urlOf env s
  .ok (.info { url, site := siteOf env s, timeout := (s.value? "timeout").getD "5s" })

def commandOf (env : Environment) (name : String) (args : List String) :
    Except UsageError (Command × Scan) :=
  match name with
  | "subscribe" => do
    let s ← scanAll subscribeSpec args
    .ok (← subscribeOf env s, s)
  | "info" => do
    let s ← scanAll infoSpec args
    .ok (← infoOf env s, s)
  | "version" => do
    let s ← scanAll versionSpec args
    .ok (.version (s.has "extended"), s)
  | _ =>
    match args with
    | [] => .error .displayHelp
    | [topic] =>
      .error (if programSpec.commands.contains topic then .displayHelp else .unknownCommand)
    | _ => .error .unknownCommand

/-- The value of a common option: the one behind the command's name counts before the one in front. -/
def common (read : String → Option α) (name : String) (outer inner : Scan) : Option α :=
  (inner.value? name <|> outer.value? name).bind read

def parse (env : Environment) (args : List String) : Except UsageError CommandLine := do
  let ⟨outer, rest⟩ ← Scan.run programSpec {} args
  match rest with
  | none =>
    let outer ← outer.settle
    .error (if outer.options.isEmpty then .nothingAsked else .missingCommand)
  | some (name, args) =>
    let (command, inner) ← commandOf env name args
    let outer ← outer.settle
    .ok
      { format := common OutputFormat.ofText? "format" outer inner
        logFormat := (common LogFormat.ofName? "log-format" outer inner).getD .text
        logLevel := (common LogLevel.ofName? "log-level" outer inner).getD .info
        command }

end CommandLine

end Telemux

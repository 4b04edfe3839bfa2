import Telemux.Command.Probe
import Telemux.Command.Subscribe

namespace Telemux

def programVersion : String := "0.1.0"

def versionText (extended : Bool) : String :=
  if extended then
    unlines
      ["name: wsmux", "version: " ++ programVersion,
        "protocol_version: " ++ wholeText protocolVersion, "features: client=true, cli=true"]
  else unlines ["wsmux " ++ programVersion]

def usageText : String :=
  unlines
    ["Usage: wsmux [OPTIONS] <COMMAND>", "",
      "Commands:",
      "  subscribe  Subscribe to a topic and print every push",
      "  info       Connect and print the server's connection info",
      "  version    Show version information"]

def UsageError.text : UsageError → String
  | .displayVersion => versionText false
  | .displayHelp | .nothingAsked => usageText
  | .unknownArgument => "error: unexpected argument\n"
  | .unknownCommand => "error: unrecognized subcommand\n"
  | .missingCommand => "error: a subcommand is required\n"
  | .missingArgument => "error: a required argument is missing\n"
  | .repeatedArgument => "error: an argument cannot be used multiple times\n"
  | .valueNotAllowed => "error: an argument takes no value\n"
  | .invalidValue | .unreadableValue => "error: an argument has an invalid value\n"

namespace Command

/-- Runs a command. The outside is asked only once the command is known to make sense. -/
def run (outside : Endpoint → Outside) (format : OutputFormat) : Command → Report
  | .version extended => ⟨versionText extended, .ok 0⟩
  | .info a =>
    match a.plan with
    | .error f => ⟨"", .error f⟩
    | .ok plan =>
      match InfoRun.probe plan (outside plan.endpoint) with
      | .error f => ⟨"", .error f⟩
      | .ok found => ⟨printInfo format plan.endpoint.text found, .ok 0⟩
  | .subscribe a =>
    match a.plan with
    | .error f => ⟨"", .error f⟩
    | .ok plan => SubscribeRun.run a format plan (outside plan.endpoint)

end Command

/-- Runs a command line; output that is not for a terminal is JSON unless something else is asked. -/
def CommandLine.run (outside : Endpoint → Outside) (line : CommandLine) : Report :=
  line.command.run outside (line.format.getD .json)

end Telemux

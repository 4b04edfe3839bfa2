import Telemux.Client.InitialReply
import Telemux.Command.Options
import Telemux.Json.Printer
import Telemux.Text.Grid
import Telemux.TopicEvent

namespace Telemux

def schemaId (name : String) : String :=
  "https://schemas.3leaps.dev/wsmux/cli/v1/" ++ name ++ ".schema.json"

def unlines (lines : List String) : String :=
  String.join (lines.map (· ++ "\n"))

def wholeText (n : Int) : String :=
  String.ofList (signedDecimal n)

def eventLine (subscription : Nat) (receivedAt : String) (event : TopicEvent) : Value :=
  .object
    [("schema_id", .string (schemaId "topic-event")),
      ("subscription", .number (.int subscription)),
      ("tag", .string event.tag),
      ("received_at", .string receivedAt),
      ("data", event.toValue)]

def printEvent (format : OutputFormat) (subscription : Nat) (receivedAt : String)
    (event : TopicEvent) : String :=
  match format with
  | .json => unlines [(eventLine subscription receivedAt event).compact]
  | .table =>
    unlines
      [Grid.text
        { header := ["TAG", "SUBSCRIPTION", "DATA"]
          rows := [[event.tag, wholeText subscription, event.toValue.compact]] }]
  | .pretty => unlines [event.tag ++ " #" ++ wholeText subscription, event.toValue.pretty]

def replyLine (data : Value) : Value :=
  .object [("schema_id", .string (schemaId "subscribe-reply")), ("data", data)]

/-- What is printed for the answer to a subscribe request: nothing for an acknowledgement. -/
def printReply (format : OutputFormat) (reply : InitialReply) : String :=
  match reply.toValue?, format with
  | none, _ => ""
  | some data, .json => unlines [(replyLine data).compact]
  | some data, _ => unlines ["Subscribed:", data.pretty]

def textOrNull : Option String → Value
  | some s => .string s
  | none => .null

def infoLine (endpoint : String) (info : ConnectionInfo) : Value :=
  .object
    [("schema_id", .string (schemaId "connection-info")),
      ("endpoint", .string endpoint),
      ("client_id", .number (.int info.clientId)),
      ("instance", textOrNull (info.home.map (·.name))),
      ("processor", textOrNull (info.processor.map (·.name))),
      ("connected", .bool true)]

def printInfo (format : OutputFormat) (endpoint : String) (info : ConnectionInfo) : String :=
  let site := (info.home.map (·.name)).getD "-"
  let processor := (info.processor.map (·.name)).getD "-"
  match format with
  | .json => unlines [(infoLine endpoint info).compact]
  | .table =>
    unlines
      [Grid.text
        { header := ["FIELD", "VALUE"]
          rows :=
            [["Endpoint", endpoint], ["Client ID", wholeText info.clientId], ["Instance", site],
              ["Processor", processor]] }]
  | .pretty =>
    unlines
      ["Connection Info:", "  Endpoint:   " ++ endpoint,
        "  Client ID:  " ++ wholeText info.clientId, "  Instance:   " ++ site,
        "  Processor:  " ++ processor]

end Telemux

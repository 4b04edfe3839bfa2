import Telemux.Url.Parser

namespace Telemux

inductive EndpointFault where
  | url (e : UrlError)
  | scheme (name : String)
  | instanceSlash (name : String)
  | schemeSwitch
  | stated (reason : String)
  deriving DecidableEq

def EndpointFault.reason : EndpointFault → String
  | .url e => e.message
  | .scheme name => "unsupported scheme '" ++ name ++ "'"
  | .instanceSlash name => "instance '" ++ name ++ "' contains '/'"
  | .schemeSwitch => "cannot switch to websocket scheme"
  | .stated reason => reason

/-- The WebSocket address of one server, and of one of its instances if the path names it. -/
structure Endpoint where
  url : Url
  deriving DecidableEq

namespace Endpoint

def text (e : Endpoint) : String :=
  e.url.text

def isSecure (e : Endpoint) : Bool :=
  e.url.scheme = .wss

/-- What is appended to the path of the console. -/
def socketSuffix : List Char :=
  "_websocket".toList

def socketScheme? : Scheme → Option (List Char)
  | .http | .ws => some "ws".toList
  | .https | .wss => some "wss".toList
  | .ftp => none

/-- The path of the console with a slash at its end. -/
def folder (base : List Char) : List Char :=
  if base.getLast? = some '/' then base else base ++ ['/']

/-- The raw path of the socket below the path of the console, with an instance behind it. -/
def socketPath (base : List Char) (site : List Char) : List Char :=
  folder base ++ socketSuffix ++ (if site.isEmpty then [] else '/' :: site)

def ofConsole (console : Url) (site : Option String) : Except EndpointFault Endpoint :=
  match socketScheme? console.scheme with
  | none => .error (.scheme console.scheme.name)
  | some scheme =>
    match console.withScheme? scheme with
    | none => .error .schemeSwitch
    | some url =>
      let site := site.getD ""
      if site.toList.contains '/' then .error (.instanceSlash site)
      else
        let url := url.withPath (socketPath url.path site.toList)
        .ok ⟨{ url with query := none, fragment := none }⟩

def ofBaseUrl (base : String) (site : Option String) : Except EndpointFault Endpoint :=
  match Url.parse base with
  | .error e => .error (.url e)
  | .ok (.other name) => .error (.scheme (String.ofList name))
  | .ok (.server url) => ofConsole url site

/-- Takes the address of a socket as it is, and derives the endpoint from that of a console. -/
def parse (text : String) : Except EndpointFault Endpoint :=
  match Url.parse text with
  | .error e => .error (.url e)
  | .ok (.other name) => .error (.scheme (String.ofList name))
  | .ok (.server url) =>
    match url.scheme with
    | .ws | .wss => .ok ⟨url⟩
    | _ => ofConsole url none

end Endpoint

end Telemux

import Telemux.Url.Host
import Telemux.Url.Path

namespace Telemux

/-- The schemes whose URLs name a server and a path on it. -/
inductive Scheme where
  | http
  | https
  | ws
  | wss
  | ftp
  deriving DecidableEq

namespace Scheme

def name : Scheme → String
  | .http => "http"
  | .https => "https"
  | .ws => "ws"
  | .wss => "wss"
  | .ftp => "ftp"

def all : List Scheme := [.http, .https, .ws, .wss, .ftp]

def ofName? (name : List Char) : Option Scheme :=
  all.find? fun s => s.name.toList = name

def defaultPort : Scheme → Nat
  | .http | .ws => 80
  | .https | .wss => 443
  | .ftp => 21

end Scheme

/-- A URL that names a server. The user information is kept in its encoded form, and a port only
where it is not the default of the scheme. -/
structure Url where
  scheme : Scheme
  userinfo : List Char
  host : Host
  port : Option Nat
  path : List Char
  query : Option (List Char)
  fragment : Option (List Char)
  deriving DecidableEq

namespace Url

def authority (u : Url) : List Char :=
  let user := if u.userinfo.isEmpty then [] else u.userinfo ++ ['@']
  let port := match u.port with
    | some port => ':' :: decimal port
    | none => []
  user ++ u.host.text ++ port

def chars (u : Url) : List Char :=
  let query := match u.query with
    | some q => '?' :: q
    | none => []
  let fragment := match u.fragment with
    | some f => '#' :: f
    | none => []
  u.scheme.name.toList ++ ':' :: '/' :: '/' :: u.authority ++ u.path ++ query ++ fragment

def text (u : Url) : String :=
  String.ofList u.chars

def portFor (scheme : Scheme) (port : Option Nat) : Option Nat :=
  if port = some scheme.defaultPort then none else port

/-- Exchanges the scheme for the one of that name, which has to name a server as well. -/
def withScheme? (u : Url) (name : List Char) : Option Url :=
  (Scheme.ofName? name).map fun scheme => { u with scheme, port := portFor scheme u.port }

def isTabOrNewline (c : Char) : Bool :=
  c = '\t' || c = '\n' || c = '\r'

/-- A text without its tabs and line ends, which a URL ignores. -/
def dropTabs (cs : List Char) : List Char :=
  cs.filter fun c => !isTabOrNewline c

/-- Exchanges the path; the text may hold characters that have to be encoded. -/
def withPath (u : Url) (raw : List Char) : Url :=
  { u with path := resolvePath (dropTabs raw) }

end Url

end Telemux

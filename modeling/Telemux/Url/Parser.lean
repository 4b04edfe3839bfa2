import Telemux.Url.Basic

namespace Telemux

/-- What a text turns out to be: the URL of a server, or a URL of a scheme that names none. -/
inductive ParsedUrl where
  | server (url : Url)
  | other (scheme : List Char)
  deriving DecidableEq

namespace Url

def isControlOrSpace (c : Char) : Bool :=
  c.toNat ≤ 0x20

def dropWhileEnd (p : Char → Bool) (cs : List Char) : List Char :=
  (cs.reverse.dropWhile p).reverse

/-- Drops controls and spaces around a text, and the tabs and line ends inside it. -/
def strip (cs : List Char) : List Char :=
  dropTabs (dropWhileEnd isControlOrSpace (cs.dropWhile isControlOrSpace))

def isSchemeChar (c : Char) : Bool :=
  c.isAlphanum || c = '+' || c = '-' || c = '.'

def splitScheme? (cs : List Char) : Option (List Char × List Char) :=
  match cs.span isSchemeChar with
  | (letter :: scheme, ':' :: rest) =>
    if letter.isAlpha then some ((letter :: scheme).map Char.toLower, rest) else none
  | _ => none

def isAuthorityEnd (special : Bool) (c : Char) : Bool :=
  c = '/' || c = '?' || c = '#' || (special && c = '\\')

def splitUserinfo (authority : List Char) : Option (List Char) × List Char :=
  if authority.contains '@' then
    let (host, user) := authority.reverse.span (· != '@')
    (some (user.drop 1).reverse, host.reverse)
  else (none, authority)

/-- User information in its encoded form: the first colon separates a password, and an empty password
leaves no trace. -/
def encodeUserinfo (raw : List Char) : List Char :=
  let (user, password) := raw.span (· != ':')
  match password with
  | [] => percentEncode .userinfo user
  | [_] => percentEncode .userinfo user
  | _ :: password => percentEncode .userinfo user ++ ':' :: percentEncode .userinfo password

/-- Cuts a host from its port; a colon between brackets belongs to the host. -/
def splitPort (inBrackets : Bool) : List Char → List Char × Option (List Char)
  | [] => ([], none)
  | c :: cs =>
    if c = ':' ∧ ¬ inBrackets then ([], some cs)
    else
      let inBrackets := if c = '[' then true else if c = ']' then false else inBrackets
      let (host, port) := splitPort inBrackets cs
      (c :: host, port)

/-- A port of sixteen bits; no digits mean no port. -/
def parsePort (cs : List Char) : Except UrlError (Option Nat) :=
  if cs.isEmpty then .ok none
  else if cs.all Char.isDigit ∧ ofDigits cs < 0x10000 then .ok (some (ofDigits cs))
  else .error .port

def splitFragment (cs : List Char) : List Char × Option (List Char) :=
  match cs.span (· != '#') with
  | (front, _ :: fragment) => (front, some fragment)
  | (front, []) => (front, none)

def splitQuery (cs : List Char) : List Char × Option (List Char) :=
  match cs.span (· != '?') with
  | (front, _ :: query) => (front, some query)
  | (front, []) => (front, none)

/-- The authority at the front of a text, and the rest. Nothing but a lone at sign in front of the end
of the authority leaves the host empty. -/
def splitAuthority (special : Bool) (cs : List Char) : List Char × List Char :=
  cs.span fun c => !isAuthorityEnd special c

/-- A URL of a known scheme, from what stands behind its colon. Any number of slashes may stand in
front of the host. -/
def parseServer (scheme : Scheme) (cs : List Char) : Except UrlError Url := do
  let (authority, rest) := splitAuthority true (cs.dropWhile fun c => c = '/' || c = '\\')
  let (user, hostAndPort) := splitUserinfo authority
  let (host, port) := splitPort false hostAndPort
  if host.isEmpty then .error .emptyHost
  else
    let host ← Host.parse host
    let port ← parsePort (port.getD [])
    let (front, fragment) := splitFragment rest
    let (path, query) := splitQuery front
    .ok
      { scheme
        userinfo := encodeUserinfo (user.getD [])
        host
        port := portFor scheme port
        path := resolvePath path
        query := query.map (percentEncode .query)
        fragment := fragment.map (percentEncode .fragment) }

def checkOpaqueAuthority (cs : List Char) : Except UrlError Unit := do
  let (authority, rest) := splitAuthority false cs
  let (user, hostAndPort) := splitUserinfo authority
  let (host, port) := splitPort false hostAndPort
  if user = some [] ∧ hostAndPort.isEmpty ∧ ¬ rest.isEmpty then .error .emptyHost
  else
    Host.checkOpaque host
    if host.isEmpty ∧ (port.isSome ∨ ¬ (encodeUserinfo (user.getD [])).isEmpty) then
      .error .emptyHost
    else
      let _ ← parsePort ((port.getD []).takeWhile (· ≠ '\\'))
      .ok ()

/-- Checks the host of a file URL, which has one behind two slashes. -/
def checkFileHost (cs : List Char) : Except UrlError Unit :=
  let isSlash (c : Char) : Bool := c = '/' || c = '\\'
  match cs with
  | a :: b :: cs =>
    if isSlash a && isSlash b then
      let host := cs.takeWhile fun c => !(isSlash c || c = '?' || c = '#')
      if host.isEmpty ∨ isDriveLetter host then .ok ()
      else do
        let _ ← Host.parse host
        .ok ()
    else .ok ()
  | _ => .ok ()

def parse (text : String) : Except UrlError ParsedUrl :=
  match splitScheme? (strip text.toList) with
  | none => .error .noScheme
  | some (name, rest) =>
    match Scheme.ofName? name with
    | some scheme => do .ok (.server (← parseServer scheme rest))
    | none => do
      if name = ['f', 'i', 'l', 'e'] then checkFileHost rest
      else
        match rest with
        | '/' :: '/' :: rest => checkOpaqueAuthority rest
        | _ => .ok ()
      .ok (.other name)

end Url

end Telemux

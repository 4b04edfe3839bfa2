import Telemux.Client.Error
import Telemux.Proofs.Segments

namespace Telemux

/-- The name of the scheme that a text turns out to have. -/
def ParsedUrl.schemeName : ParsedUrl → List Char
  | .server url => url.scheme.name.toList
  | .other name => name

namespace Url

theorem not_isTabOrNewline {c : Char} (h : ¬ (c = '\t' ∨ c = '\n' ∨ c = '\r')) :
    isTabOrNewline c = false := by
  simpa [isTabOrNewline, and_assoc] using h

theorem dropTabs_eq_self {cs : List Char} (h : ∀ c ∈ cs, isTabOrNewline c = false) : dropTabs cs = cs :=
  List.filter_eq_self.mpr fun c hc => by rw [h c hc]; rfl

theorem of_parseServer {scheme : Scheme} {cs : List Char} {url : Url}
    (h : parseServer scheme cs = .ok url) : url.scheme = scheme ∧ IsPath url.path := by
  unfold parseServer at h
  simp only [bind, Except.bind] at h
  repeat' split at h
  all_goals cases h
  exact ⟨rfl, isPath_resolvePath _⟩

theorem of_parse {text : String} {parsed : ParsedUrl} (h : parse text = .ok parsed) :
    ∃ rest, splitScheme? (strip text.toList) = some (parsed.schemeName, rest) ∧
      match parsed with
      | .server url => IsPath url.path
      | .other name => Scheme.ofName? name = none := by
  unfold parse at h
  split at h
  next => cases h
  next name rest found =>
    split at h
    next scheme known =>
      cases hs : parseServer scheme rest with
      | error e => rw [hs] at h; cases h
      | ok server =>
        rw [hs] at h
        cases h
        obtain ⟨rfl, path⟩ := of_parseServer hs
        obtain rfl : server.scheme.name.toList = name := by
          simpa using List.find?_some known
        exact ⟨rest, found, path⟩
    next unknown =>
      obtain rfl : parsed = .other name := by
        simp only [bind, Except.bind] at h
        repeat' split at h
        all_goals cases h
        all_goals rfl
      exact ⟨rest, found, unknown⟩

end Url

namespace Endpoint

variable {console : Url} {path : List Char} {front : List (List Char)}

theorem exists_folder (h : IsPath path) :
    ∃ front, (∀ s ∈ front, Settled s) ∧ folder path = joinSegments front ++ ['/'] := by
  obtain ⟨front, last, hf, hl, rfl⟩ := h
  obtain rfl | ⟨s, c, rfl⟩ := List.eq_nil_or_concat last
  · exact ⟨front, hf, by simp [folder]⟩
  · refine ⟨front ++ [s.concat c], List.forall_mem_append.mpr ⟨hf, by simpa using hl⟩, ?_⟩
    have open_end : c ≠ '/' := (hl.whole c (by simp)).1
    have last : joinSegments (front ++ [s.concat c]) = joinSegments front ++ '/' :: s ++ [c] := by
      simp
    rw [folder, last, List.getLast?_concat, if_neg (by simpa using open_end)]

theorem dropTabs_of_plain {cs : List Char} (h : Plain cs) : Url.dropTabs cs = cs := by
  refine Url.dropTabs_eq_self fun c hc => Url.not_isTabOrNewline fun control => ?_
  have plain := h c hc
  obtain rfl | rfl | rfl := control <;> cases plain

theorem plain_joinSegments (h : ∀ s ∈ front, Settled s) : Plain (joinSegments front) := by
  intro c hc
  obtain ⟨s, hs, hc⟩ := List.mem_flatMap.mp hc
  obtain rfl | hc := List.mem_cons.mp hc
  · rfl
  · exact (h s hs).plain c hc

theorem settled_socketSuffix : Settled socketSuffix := by
  constructor <;> decide

/-- What stands behind the directories in the raw path of a socket. -/
def socketTail (site : List Char) : List Char :=
  socketSuffix ++ if site.isEmpty then [] else '/' :: Url.dropTabs site

theorem path_socket (hf : ∀ s ∈ front, Settled s) (h : folder path = joinSegments front ++ ['/'])
    (site : List Char) : resolvePath (Url.dropTabs (socketPath path site)) =
      joinSegments (resolveSegments front.reverse (splitSegments (socketTail site))) := by
  have dropped : Url.dropTabs (socketPath path site) = joinSegments front ++ '/' :: socketTail site := by
    have kept := dropTabs_of_plain (plain_joinSegments hf)
    have suffix := dropTabs_of_plain settled_socketSuffix.plain
    unfold Url.dropTabs at kept suffix ⊢
    rw [socketPath, h, List.filter_append, List.filter_append, List.filter_append, kept, suffix]
    unfold socketTail Url.dropTabs
    split <;> simp [Url.isTabOrNewline]
  rw [dropped, resolvePath_join hf]

theorem path_without_site (h : IsPath path) :
    resolvePath (Url.dropTabs (socketPath path [])) = folder path ++ socketSuffix := by
  obtain ⟨front, hf, hp⟩ := exists_folder h
  rw [path_socket hf hp, hp]
  have alone : splitSegments (socketTail []) = [] ++ [socketSuffix] :=
    splitSegments_of_whole settled_socketSuffix.whole
  rw [alone, resolveSegments_concat, settled_socketSuffix.lastSegment]
  simp [aboveLast, settled_socketSuffix.notUp, percentEncode_of_plain settled_socketSuffix.plain]

/-- The scheme of a socket that is as secure as a console. -/
def mirror (scheme : Scheme) : Scheme :=
  if scheme = .https ∨ scheme = .wss then .wss else .ws

/-- The address of a socket with the server of a console and a path of its own. -/
structure SocketOf (console : Url) (path : List Char) (e : Endpoint) : Prop where
  scheme : e.url.scheme = mirror console.scheme
  userinfo : e.url.userinfo = console.userinfo
  host : e.url.host = console.host
  port : e.url.port.getD e.url.scheme.defaultPort = console.port.getD console.scheme.defaultPort
  path : e.url.path = path
  query : e.url.query = none
  fragment : e.url.fragment = none

theorem SocketOf.isSecure_iff {e : Endpoint} (h : SocketOf console path e) :
    e.isSecure = true ↔ console.scheme = .https ∨ console.scheme = .wss := by
  unfold isSecure
  rw [h.scheme, mirror]
  split <;> simp_all

theorem defaultPort_mirror {scheme : Scheme} (h : scheme ≠ .ftp) :
    (mirror scheme).defaultPort = scheme.defaultPort := by
  cases scheme <;> first | rfl | exact (h rfl).elim

theorem socketScheme?_eq {scheme : Scheme} (h : scheme ≠ .ftp) :
    socketScheme? scheme = some (mirror scheme).name.toList := by
  cases scheme <;> first | rfl | exact (h rfl).elim

theorem ofName?_name (scheme : Scheme) : Scheme.ofName? scheme.name.toList = some scheme := by
  cases scheme <;> rfl

theorem getD_portFor (scheme : Scheme) (port : Option Nat) :
    (Url.portFor scheme port).getD scheme.defaultPort = port.getD scheme.defaultPort := by
  unfold Url.portFor
  split
  next default => simp [default]
  next => rfl

/-- The scheme of a console can always be exchanged. -/
theorem withScheme?_mirror (console : Url) : console.withScheme? (mirror console.scheme).name.toList =
    some { console with
      scheme := mirror console.scheme
      port := Url.portFor (mirror console.scheme) console.port } := by
  rw [Url.withScheme?, ofName?_name]
  rfl

theorem ofConsole_of_slash (h : console.scheme ≠ .ftp) {site : Option String}
    (slash : '/' ∈ (site.getD "").toList) :
    ofConsole console site = .error (.instanceSlash (site.getD "")) := by
  simp [ofConsole, socketScheme?_eq h, withScheme?_mirror, slash]

theorem exists_ofConsole (h : console.scheme ≠ .ftp) {site : Option String}
    (slash : '/' ∉ (site.getD "").toList) : ∃ e, ofConsole console site = .ok e ∧
      SocketOf console (resolvePath (Url.dropTabs (socketPath console.path (site.getD "").toList))) e := by
  simp only [ofConsole, socketScheme?_eq h, withScheme?_mirror, List.contains_iff_mem, if_neg slash]
  refine ⟨_, rfl, rfl, rfl, rfl, ?_, rfl, rfl, rfl⟩
  rw [← defaultPort_mirror h]
  exact getD_portFor _ _

/-- The schemes that a console or a socket can have. -/
def socketSchemes : List (List Char) :=
  ["http".toList, "https".toList, "ws".toList, "wss".toList]

/-- What becomes of a text as an address, by what it is as a URL. -/
structure Addresses (text : String) : Prop where
  unparsable : ∀ e, Url.parse text = .error e →
    (∀ site, ofBaseUrl text site = .error (.url e)) ∧ parse text = .error (.url e)
  unsupported : ∀ parsed, Url.parse text = .ok parsed → parsed.schemeName ∉ socketSchemes →
    (∀ site, ofBaseUrl text site = .error (.scheme (String.ofList parsed.schemeName))) ∧
      parse text = .error (.scheme (String.ofList parsed.schemeName))
  supported : ∀ parsed, Url.parse text = .ok parsed → parsed.schemeName ∈ socketSchemes →
    ∃ url e, parsed = .server url ∧ ofBaseUrl text none = .ok e ∧ ofBaseUrl text (some "") = .ok e ∧
      SocketOf url (folder url.path ++ socketSuffix) e ∧
      (e.isSecure = true ↔ url.scheme = .https ∨ url.scheme = .wss) ∧
      parse text = if url.scheme = .ws ∨ url.scheme = .wss then .ok ⟨url⟩ else .ok e
  switches : ∀ site, ofBaseUrl text site ≠ .error .schemeSwitch

theorem ofConsole_without_site (h : console.scheme ≠ .ftp) (path : IsPath console.path) :
    ∃ e, ofConsole console none = .ok e ∧ ofConsole console (some "") = .ok e ∧
      SocketOf console (folder console.path ++ socketSuffix) e := by
  obtain ⟨e, derived, socket⟩ := exists_ofConsole h (nofun : '/' ∉ (none.getD "").toList)
  rw [← path_without_site path]
  exact ⟨e, derived, derived, socket⟩

theorem mem_socketSchemes (scheme : Scheme) : scheme.name.toList ∈ socketSchemes ↔ scheme ≠ .ftp := by
  cases scheme <;> decide

/-- Every address of a console has a socket, which mirrors it, and no other text but that of a socket
itself is an address. -/
theorem addresses_of_text (text : String) : Addresses text where
  unparsable e h := by simp [ofBaseUrl, parse, h]
  unsupported parsed h foreign := by
    cases parsed with
    | other name => simp [ofBaseUrl, parse, h, ParsedUrl.schemeName]
    | server url =>
      have ftp : url.scheme = .ftp := by
        simpa [ParsedUrl.schemeName, mem_socketSchemes] using foreign
      simp [ofBaseUrl, parse, h, ftp, ofConsole, socketScheme?, ParsedUrl.schemeName]
  supported parsed h known := by
    obtain ⟨-, -, kind⟩ := Url.of_parse h
    cases parsed with
    | other name =>
      have served : ∀ name ∈ socketSchemes, (Scheme.ofName? name).isSome := by decide
      have serves := served name known
      rw [kind] at serves
      cases serves
    | server url =>
      have scheme := (mem_socketSchemes url.scheme).mp known
      obtain ⟨e, derived, emptied, socket⟩ := ofConsole_without_site scheme kind
      refine ⟨url, e, rfl, by simpa [ofBaseUrl, h] using derived, by simpa [ofBaseUrl, h] using emptied,
        socket, socket.isSecure_iff, ?_⟩
      simp only [parse, h]
      cases hs : url.scheme <;> first | exact derived | rfl
  switches site h := by
    unfold ofBaseUrl at h
    split at h
    next => cases h
    next => cases h
    next url _ =>
      by_cases hs : url.scheme = .ftp
      · simp [ofConsole, hs, socketScheme?] at h
      · by_cases slash : '/' ∈ (site.getD "").toList
        · cases h.symm.trans (ofConsole_of_slash hs slash)
        · obtain ⟨e, derived, -⟩ := exists_ofConsole hs slash
          cases h.symm.trans derived

/-- A console under the default port of another scheme, as a user may write it. -/
def consoleText : String :=
  "HTTP:\\\\op:secret@MCS.example:443/./console/%7Eops?view=1#top"

def consoleUrl : Url :=
  ⟨.http, "op:secret".toList, .domain "mcs.example".toList, some 443, "/console/%7Eops".toList,
    some "view=1".toList, some "top".toList⟩

theorem consoleText_addresses :
    Url.parse consoleText = .ok (.server consoleUrl) ∧
      ∃ e, ofBaseUrl consoleText none = .ok e ∧ parse consoleText = .ok e ∧
        e.url.path = "/console/%7Eops/_websocket".toList ∧ e.url.port.getD 80 = 443 ∧
        e.isSecure = false := by
  have read : Url.parse consoleText = .ok (.server consoleUrl) := by decide +kernel
  obtain ⟨url, e, same, derived, -, socket, secure, parsed⟩ :=
    (addresses_of_text consoleText).supported _ read (by decide)
  cases same
  refine ⟨read, e, derived, parsed, socket.path, ?_, ?_⟩
  · have port := socket.port
    rwa [socket.scheme] at port
  · exact Bool.eq_false_iff.mpr (mt secure.mp (by decide))

end Endpoint

end Telemux

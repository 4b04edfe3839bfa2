import Telemux.Command.Options
import Telemux.Proofs.Console
import Telemux.Proofs.Record

namespace Telemux

namespace Url

/-- Visible characters at the front of a text stay there. -/
theorem strip_visible {front : List Char} (nonempty : front ≠ [])
    (all : front.all (fun c => !isControlOrSpace c) = true) (rest : List Char) :
    ∃ back, strip (front ++ rest) = front ++ back := by
  have visible : ∀ c ∈ front, isControlOrSpace c = false := by simpa using all
  have kept : dropTabs front = front := by
    refine dropTabs_eq_self fun c hc => not_isTabOrNewline fun control => ?_
    have visible := visible c hc
    obtain rfl | rfl | rfl := control <;> cases visible
  have starts : (front ++ rest).dropWhile isControlOrSpace = front ++ rest := by
    obtain ⟨c, front, rfl⟩ := List.exists_cons_of_ne_nil nonempty
    simp [visible c List.mem_cons_self]
  have ends : dropWhileEnd isControlOrSpace (front ++ rest) =
      front ++ dropWhileEnd isControlOrSpace rest := by
    have stops : front.reverse.dropWhile isControlOrSpace = front.reverse := by
      obtain ⟨c, back, hb⟩ := List.exists_cons_of_ne_nil (List.reverse_ne_nil_iff.mpr nonempty)
      have := visible c (List.mem_reverse.mp (hb ▸ List.mem_cons_self))
      simp [hb, this]
    unfold dropWhileEnd
    rw [List.reverse_append, List.dropWhile_append, stops]
    split
    next emptied => simp [List.isEmpty_iff.mp emptied]
    next => simp
  refine ⟨dropTabs (dropWhileEnd isControlOrSpace rest), ?_⟩
  rw [strip, starts, ends, dropTabs, List.filter_append]
  exact congrArg (· ++ _) kept

end Url

/-- The address of a socket in its plain spelling. -/
def IsMarked (text : String) : Prop :=
  "ws://".toList <+: text.toList ∨ "wss://".toList <+: text.toList

instance (text : String) : Decidable (IsMarked text) :=
  inferInstanceAs (Decidable (_ ∨ _))

theorem isPrefixOf_iff_isMarked (text : String) :
    ("ws://".toList.isPrefixOf text.toList ∨ "wss://".toList.isPrefixOf text.toList) ↔ IsMarked text := by
  simp [IsMarked]

theorem IsMarked.schemeName {text : String} {parsed : ParsedUrl} (h : IsMarked text)
    (parses : Url.parse text = .ok parsed) :
    parsed.schemeName = "ws".toList ∨ parsed.schemeName = "wss".toList := by
  obtain ⟨rest, found, -⟩ := Url.of_parse parses
  obtain ⟨back, ht⟩ | ⟨back, ht⟩ := h
  · obtain ⟨back, stripped⟩ := Url.strip_visible (by decide : "ws://".toList ≠ []) (by decide) back
    rw [← ht, stripped] at found
    exact .inl (Prod.mk.inj (Option.some.inj found)).1.symm
  · obtain ⟨back, stripped⟩ := Url.strip_visible (by decide : "wss://".toList ≠ []) (by decide) back
    rw [← ht, stripped] at found
    exact .inr (Prod.mk.inj (Option.some.inj found)).1.symm

/-- How the command line tells that a text has no endpoint. -/
def invalidUrl (text : String) (fault : EndpointFault) : Failure :=
  .ofTransport "invalid url" (.invalidEndpoint text fault)

theorem resolveEndpoint_of_isMarked {text : String} (h : IsMarked text) (site : Option String) :
    resolveEndpoint text site = (Endpoint.parse text).mapError (invalidUrl text) :=
  congrArg (Except.mapError _) (if_pos ((isPrefixOf_iff_isMarked text).mpr h))

theorem resolveEndpoint_of_not_isMarked {text : String} (h : ¬ IsMarked text) (site : Option String) :
    resolveEndpoint text site = (Endpoint.ofBaseUrl text site).mapError (invalidUrl text) :=
  congrArg (Except.mapError _) (if_neg (mt (isPrefixOf_iff_isMarked text).mp h))

theorem parse_of_socket {text : String} {url : Url} (parses : Url.parse text = .ok (.server url))
    (h : url.scheme = .ws ∨ url.scheme = .wss) : Endpoint.parse text = .ok ⟨url⟩ := by
  unfold Endpoint.parse
  rw [parses]
  obtain h | h := h <;> simp only [h]

theorem socket_of_isMarked {text : String} {url : Url} (parses : Url.parse text = .ok (.server url))
    (h : IsMarked text) : url.scheme = .ws ∨ url.scheme = .wss := by
  have name := h.schemeName parses
  cases hs : url.scheme <;> simp [ParsedUrl.schemeName, hs, Scheme.name] at name ⊢

/-- An endpoint that is derived from a URL is another one, for its path is longer. -/
theorem ofBaseUrl_ne {text : String} {url : Url} (parses : Url.parse text = .ok (.server url)) :
    Endpoint.ofBaseUrl text none ≠ .ok ⟨url⟩ := by
  intro same
  obtain ⟨_, _, path⟩ := Url.of_parse parses
  have derived : Endpoint.ofConsole url none = .ok ⟨url⟩ := by
    simpa [Endpoint.ofBaseUrl, parses] using same
  have scheme : url.scheme ≠ .ftp := by
    intro ftp
    simp [Endpoint.ofConsole, ftp, Endpoint.socketScheme?] at derived
  obtain ⟨e, found, -, socket⟩ := Endpoint.ofConsole_without_site scheme path
  cases derived.symm.trans found
  have lengths : url.path.length = _ := congrArg List.length socket.path
  have suffix : Endpoint.socketSuffix.length = 10 := by decide
  have folder : url.path.length ≤ (Endpoint.folder url.path).length := by
    unfold Endpoint.folder
    split <;> simp
  rw [List.length_append] at lengths
  omega

/-- What the command line makes of the text of a URL. Only the plain spelling of the address of a socket
is taken as it is, and from any other an endpoint is derived. -/
structure ResolvesBySpelling (text : String) (url : Url) : Prop where
  console : url.scheme = .http ∨ url.scheme = .https → ∀ site,
    resolveEndpoint text site = (Endpoint.ofBaseUrl text site).mapError (invalidUrl text)
  marked : IsMarked text → (url.scheme = .ws ∨ url.scheme = .wss) ∧
    ∀ site, resolveEndpoint text site = .ok ⟨url⟩
  unmarked : ¬ IsMarked text → ∀ site,
    resolveEndpoint text site = (Endpoint.ofBaseUrl text site).mapError (invalidUrl text)
  socket : url.scheme = .ws ∨ url.scheme = .wss →
    Endpoint.parse text = .ok ⟨url⟩ ∧ (resolveEndpoint text none = .ok ⟨url⟩ ↔ IsMarked text)

theorem resolves_by_spelling (text : String) (url : Url) (parses : Url.parse text = .ok (.server url)) :
    ResolvesBySpelling text url where
  console http site := by
    refine resolveEndpoint_of_not_isMarked (fun marked => ?_) site
    have socket := socket_of_isMarked parses marked
    grind
  marked marked := by
    have socket := socket_of_isMarked parses marked
    refine ⟨socket, fun site => ?_⟩
    rw [resolveEndpoint_of_isMarked marked, parse_of_socket parses socket]
    rfl
  unmarked unmarked := resolveEndpoint_of_not_isMarked unmarked
  socket socket := by
    have kept := parse_of_socket parses socket
    refine ⟨kept, fun same => Classical.byContradiction fun unmarked => ?_, fun marked => ?_⟩
    · rw [resolveEndpoint_of_not_isMarked unmarked] at same
      exact ofBaseUrl_ne parses (ok_of_mapError same)
    · rw [resolveEndpoint_of_isMarked marked, kept]
      rfl

def socketUrl : Url :=
  ⟨.ws, [], .domain "host".toList, none, "/Path".toList, none, none⟩

/-- Two spellings of one URL. -/
theorem socketUrl_resolves_by_spelling :
    Url.parse "ws://HOST/Path" = .ok (.server socketUrl) ∧
      Url.parse "WS://HOST/Path" = .ok (.server socketUrl) ∧
      (∀ site, resolveEndpoint "ws://HOST/Path" site = .ok ⟨socketUrl⟩) ∧
      resolveEndpoint "WS://HOST/Path" none ≠ .ok ⟨socketUrl⟩ := by
  have plain : Url.parse "ws://HOST/Path" = .ok (.server socketUrl) := by decide +kernel
  have loud : Url.parse "WS://HOST/Path" = .ok (.server socketUrl) := by decide +kernel
  have marked : IsMarked "ws://HOST/Path" := by decide
  have unmarked : ¬ IsMarked "WS://HOST/Path" := by decide
  exact ⟨plain, loud, ((resolves_by_spelling _ _ plain).marked marked).2,
    mt ((resolves_by_spelling _ _ loud).socket (.inl rfl)).2.mp unmarked⟩

/-- A socket in capital letters is taken for a console, and its path is extended. -/
theorem capital_socket_extended :
    Url.parse "WS://HOST/Path" = .ok (.server socketUrl) ∧
      Endpoint.parse "WS://HOST/Path" = .ok ⟨socketUrl⟩ ∧
      resolveEndpoint "WS://HOST/Path" (some "sim") =
        .ok ⟨{ socketUrl with path := "/Path/_websocket/sim".toList }⟩ ∧
      resolveEndpoint "WS://HOST/Path" (some "sim") ≠ .ok ⟨socketUrl⟩ := by
  decide +kernel

end Telemux

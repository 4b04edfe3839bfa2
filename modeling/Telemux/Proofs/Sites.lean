import Mathlib.Data.List.Flatten
import Telemux.Proofs.Console
import Telemux.Proofs.Escapes

namespace Telemux

variable {cs s last : List Char} {init front : List (List Char)}

theorem flatten_splitSegments_sublist (cs : List Char) : List.Sublist (splitSegments cs).flatten cs := by
  induction cs with
  | nil => simp [splitSegments]
  | cons c cs ih =>
    obtain ⟨first, others, hs⟩ := List.exists_cons_of_ne_nil (splitSegments_ne_nil cs)
    rw [hs] at ih
    rw [splitSegments]
    split
    · rw [hs]
      exact ih.cons c
    · rw [hs]
      exact ih.cons_cons c

theorem isDot_bytes (cs : List Char) (h : isDoubleDot cs = true ∨ isSingleDot cs = true) :
    percentDecode cs = "..".toList.flatMap utf8Bytes ∨ percentDecode cs = ".".toList.flatMap utf8Bytes := by
  have double : ∀ cs, isDoubleDot cs = true → percentDecode cs = "..".toList.flatMap utf8Bytes := by
    simp only [isDoubleDot, List.contains_iff_mem]
    decide
  have single : ∀ cs, isSingleDot cs = true → percentDecode cs = ".".toList.flatMap utf8Bytes := by
    simp only [isSingleDot, List.contains_iff_mem]
    decide
  exact h.imp (double cs) (single cs)

/-- A text with none of the characters that a path drops or takes for a slash. -/
def Undivided (s : List Char) : Prop :=
  ∀ c ∈ s, c ≠ '\\' ∧ Url.isTabOrNewline c = false

instance (s : List Char) : Decidable (Undivided s) :=
  List.decidableBAll _ s

/-- A name that a path can hold as one segment: it is no dot segment, it is not divided, and no percent
sign of it stands for a byte. -/
structure PlainName (name : List Char) : Prop where
  notHere : name ≠ ".".toList
  notUp : name ≠ "..".toList
  undivided : Undivided name
  unescaped : hasEscape name = false

instance (name : List Char) : Decidable (PlainName name) :=
  decidable_of_iff
    (name ≠ ".".toList ∧ name ≠ "..".toList ∧ Undivided name ∧ hasEscape name = false)
    ⟨fun h => ⟨h.1, h.2.1, h.2.2.1, h.2.2.2⟩, fun h => ⟨h.notHere, h.notUp, h.undivided, h.unescaped⟩⟩

theorem PlainName.settled (h : PlainName s) (slash : '/' ∉ s) : Settled (percentEncode .path s) := by
  have whole : Whole s := fun c hc => ⟨fun hs => slash (hs ▸ hc), (h.undivided c hc).1⟩
  have stands : percentDecode (percentEncode .path s) = s.flatMap utf8Bytes := by
    rw [percentDecode_percentEncode, percentDecode_of_not_hasEscape h.unescaped]
  have steady : ¬ (isDoubleDot (percentEncode .path s) = true ∨ isSingleDot (percentEncode .path s) = true) := by
    intro dots
    obtain up | here := isDot_bytes _ dots
    · exact h.notUp (flatMap_utf8Bytes_inj (stands.symm.trans up))
    · exact h.notHere (flatMap_utf8Bytes_inj (stands.symm.trans here))
  obtain ⟨notUp, notHere⟩ := not_or.mp steady
  exact whole.settled (Bool.eq_false_iff.mpr notUp) (Bool.eq_false_iff.mpr notHere)

/-- A segment that stands for a name was made of that name alone, which is plain. -/
theorem plainName_of_last (nonempty : s ≠ []) (split : splitSegments (Url.dropTabs s) = init ++ [last])
    (stands : percentDecode (lastSegment last) = s.flatMap utf8Bytes) : PlainName s := by
  have named : s.flatMap utf8Bytes ≠ [] := by
    obtain ⟨c, cs, rfl⟩ := List.exists_cons_of_ne_nil nonempty
    simp [utf8Bytes_ne_nil]
  have steady : lastSegment last = percentEncode .path last := by
    unfold lastSegment at stands ⊢
    split
    next dots =>
      rw [if_pos dots] at stands
      exact (named stands.symm).elim
    next => rfl
  rw [steady, percentDecode_percentEncode] at stands
  have part : List.Sublist last (Url.dropTabs s) :=
    (List.sublist_flatten_of_mem (last_mem_split split)).trans (flatten_splitSegments_sublist _)
  -- The last segment has to have all bytes of the name, of which it is a part.
  have bytes := (part.trans List.filter_sublist).flatMap utf8Bytes
  have longest := length_percentDecode_le last
  rw [stands] at longest
  have same : last = s := flatMap_utf8Bytes_inj (bytes.eq_of_length_le (by omega))
  subst same
  have kept : Url.dropTabs last = last := List.filter_sublist.eq_of_length_le part.length_le
  refine ⟨?_, ?_, fun c hc => ⟨?_, ?_⟩, ?_⟩
  · rintro rfl
    cases steady
  · rintro rfl
    cases steady
  · exact (whole_of_mem_splitSegments (last_mem_split split) c hc).2
  · rw [← kept] at hc
    simpa using (List.mem_filter.mp hc).2
  · refine Bool.eq_false_iff.mpr fun escaped => ?_
    rw [if_pos escaped] at longest
    omega

namespace Endpoint

variable {console : Url} {site : List Char} {path : List Char}

/-- The last segment of a path is told by the path. -/
theorem eq_of_last_slash {front above : List Char} (hs : '/' ∉ s) (hl : '/' ∉ last)
    (h : front ++ '/' :: s = above ++ '/' :: last) : s = last := by
  have behind (front s : List Char) (hs : '/' ∉ s) :
      (front ++ '/' :: s).reverse.takeWhile (· ≠ '/') = s.reverse := by
    rw [List.reverse_append, List.reverse_cons, List.append_assoc, List.takeWhile_append_of_pos]
    · simp
    · intro c hc
      have other : c ≠ '/' := fun slash => hs (slash ▸ List.mem_reverse.mp hc)
      simpa using other
  have same := behind front s hs
  rw [h, behind above last hl] at same
  exact List.reverse_inj.mp same.symm

/-- The path of a socket names an instance in one segment behind all others. -/
def NamesSite (console : Url) (site : List Char) (e : Endpoint) : Prop :=
  ∃ segment, e.url.path = folder console.path ++ socketSuffix ++ '/' :: segment ∧ '/' ∉ segment ∧
    percentDecode segment = site.flatMap utf8Bytes

/-- The path of a socket below a console, for any name of an instance. -/
theorem path_with_site (hf : ∀ t ∈ front, Settled t) (hp : folder path = joinSegments front ++ ['/'])
    (nonempty : site ≠ []) (split : splitSegments (Url.dropTabs site) = init ++ [last]) :
    resolvePath (Url.dropTabs (socketPath path site)) =
      joinSegments (aboveLast (init.foldl enterSegment (socketSuffix :: front.reverse)) last).reverse ++
        '/' :: lastSegment last := by
  have segments : splitSegments (socketTail site) = (socketSuffix :: init) ++ [last] := by
    rw [socketTail, if_neg (by simpa using nonempty), splitSegments_append,
      splitSegments_of_whole settled_socketSuffix.whole, split]
    rfl
  rw [path_socket hf hp, segments, resolveSegments_concat, List.foldl_cons,
    settled_socketSuffix.enterSegment]
  simp

theorem path_with_plainName (h : IsPath path) (nonempty : site ≠ []) (slash : '/' ∉ site)
    (plain : PlainName site) : resolvePath (Url.dropTabs (socketPath path site)) =
      folder path ++ socketSuffix ++ '/' :: percentEncode .path site := by
  obtain ⟨front, hf, hp⟩ := exists_folder h
  have whole : Whole site := fun c hc => ⟨fun hs => slash (hs ▸ hc), (plain.undivided c hc).1⟩
  have kept : Url.dropTabs site = site := Url.dropTabs_eq_self fun c hc => (plain.undivided c hc).2
  have split : splitSegments (Url.dropTabs site) = [] ++ [site] := by
    rw [kept, splitSegments_of_whole whole]
    rfl
  obtain ⟨notUp, notHere⟩ : isDoubleDot (percentEncode .path site) = false ∧
      isSingleDot (percentEncode .path site) = false :=
    ⟨(plain.settled slash).notUp, (plain.settled slash).notHere⟩
  rw [path_with_site hf hp nonempty split, hp]
  simp [aboveLast, lastSegment, notUp, notHere]

theorem namesSite_iff {e : Endpoint} (h : IsPath console.path) (nonempty : site ≠ []) (slash : '/' ∉ site)
    (socket : SocketOf console (resolvePath (Url.dropTabs (socketPath console.path site))) e) :
    NamesSite console site e ↔ PlainName site := by
  constructor
  · rintro ⟨segment, path, whole, stands⟩
    obtain ⟨front, hf, hp⟩ := exists_folder h
    obtain ⟨init, last, split⟩ := exists_split (Url.dropTabs site)
    rw [socket.path, path_with_site hf hp nonempty split] at path
    have settled : Settled (lastSegment last) :=
      settled_lastSegment (whole_of_mem_splitSegments (last_mem_split split))
    have same := eq_of_last_slash (fun hs => (settled.whole _ hs).1 rfl) whole path
    exact plainName_of_last nonempty split (same ▸ stands)
  · intro plain
    refine ⟨percentEncode .path site, socket.path.trans (path_with_plainName h nonempty slash plain), ?_, ?_⟩
    · exact fun hs => ((plain.settled slash).whole _ hs).1 rfl
    · rw [percentDecode_percentEncode, percentDecode_of_not_hasEscape plain.unescaped]

theorem eq_of_namesSite {other : List Char} {e : Endpoint} (h : NamesSite console site e)
    (ho : NamesSite console other e) : site = other := by
  obtain ⟨segment, path, whole, stands⟩ := h
  obtain ⟨segment', path', whole', stands'⟩ := ho
  have same : segment = segment' := eq_of_last_slash whole whole' (path.symm.trans path')
  exact flatMap_utf8Bytes_inj (stands.symm.trans (same ▸ stands'))

/-- Which instances the sockets below a console name. A name with a slash is refused and any other is
taken, but only the plain names are told apart for sure. -/
structure SitesBelow (text : String) (console : Url) : Prop where
  refused : ∀ site, '/' ∈ site.toList → ofBaseUrl text (some site) = .error (.instanceSlash site)
  accepted : ∀ site, '/' ∉ site.toList → ∃ e, ofBaseUrl text (some site) = .ok e
  named : ∀ site e, site ≠ "" → ofBaseUrl text (some site) = .ok e →
    (NamesSite console site.toList e ↔ PlainName site.toList)
  distinct : ∀ site other e, site ≠ "" → other ≠ "" → PlainName site.toList → PlainName other.toList →
    ofBaseUrl text (some site) = .ok e → ofBaseUrl text (some other) = .ok e → site = other

theorem sites_below (text : String) (console : Url) (parses : Url.parse text = .ok (.server console))
    (scheme : console.scheme ≠ .ftp) : SitesBelow text console := by
  have derives (site : Option String) : ofBaseUrl text site = ofConsole console site := by
    simp [ofBaseUrl, parses]
  have refused (site : String) (slash : '/' ∈ site.toList) :
      ofBaseUrl text (some site) = .error (.instanceSlash site) :=
    (derives _).trans (ofConsole_of_slash scheme slash)
  have accepted (site : String) (slash : '/' ∉ site.toList) : ∃ e, ofBaseUrl text (some site) = .ok e ∧
      SocketOf console (resolvePath (Url.dropTabs (socketPath console.path site.toList))) e := by
    rw [derives]
    exact exists_ofConsole scheme slash
  have named (site : String) (e : Endpoint) (nonempty : site ≠ "")
      (derived : ofBaseUrl text (some site) = .ok e) :
      NamesSite console site.toList e ↔ PlainName site.toList := by
    have slash : '/' ∉ site.toList := by
      intro slash
      cases derived.symm.trans (refused site slash)
    obtain ⟨found, same, socket⟩ := accepted site slash
    cases derived.symm.trans same
    obtain ⟨_, _, path⟩ := Url.of_parse parses
    exact namesSite_iff path (by simpa using nonempty) slash socket
  refine ⟨refused, fun site slash => ?_, named, fun site other e hs ho plain plain' derived derived' => ?_⟩
  · obtain ⟨e, derived, -⟩ := accepted site slash
    exact ⟨e, derived⟩
  · have first := (named site e hs derived).mpr plain
    have second := (named other e ho derived').mpr plain'
    exact String.toList_inj.mp (eq_of_namesSite first second)

def mcsConsole : Url :=
  ⟨.https, [], .domain "mcs.example".toList, none, "/console/".toList, none, none⟩

theorem mcsConsole_sites :
    Url.parse "https://mcs.example/console/" = .ok (.server mcsConsole) ∧
      ∃ e, ofBaseUrl "https://mcs.example/console/" (some "50% 中") = .ok e ∧
        NamesSite mcsConsole "50% 中".toList e := by
  have parses : Url.parse "https://mcs.example/console/" = .ok (.server mcsConsole) := by decide +kernel
  have sites := sites_below _ _ parses (by decide)
  obtain ⟨e, derived⟩ := sites.accepted "50% 中" (by decide)
  have plain : PlainName "50% 中".toList := by decide
  exact ⟨parses, e, derived, (sites.named _ e (by decide) derived).mpr plain⟩

/-- A backslash divides a name, and two names that differ in a tab have one socket. -/
theorem mcsConsole_confused :
    (∃ e, ofBaseUrl "https://mcs.example/console/" (some "a\\b") = .ok e ∧
      e.url.path = "/console/_websocket/a/b".toList ∧ ¬ NamesSite mcsConsole "a\\b".toList e) ∧
      ofBaseUrl "https://mcs.example/console/" (some "a\tb") =
        ofBaseUrl "https://mcs.example/console/" (some "ab") := by
  refine ⟨⟨⟨⟨.wss, [], .domain "mcs.example".toList, none, "/console/_websocket/a/b".toList, none, none⟩⟩,
    by decide +kernel, rfl, ?_⟩, by decide +kernel⟩
  rintro ⟨segment, path, whole, -⟩
  have divided : "/console/_websocket/".toList ++ "a/b".toList =
      "/console/_websocket/".toList ++ segment := path
  obtain rfl := List.append_cancel_left divided
  exact whole (by decide)

end Endpoint

end Telemux

import Telemux.Proofs.Replay

namespace Telemux

/-- The sequence in the text of a frame: the digits between the second comma and the third. -/
def sequenceIn (text : String) : Nat :=
  let behindComma (cs : List Char) : List Char := (cs.dropWhile (· ≠ ',')).tail
  ofDigits ((behindComma (behindComma text.toList)).takeWhile (· ≠ ','))

theorem ne_comma_of_mem_decimal {n : Nat} {x : Char} (h : x ∈ decimal n) : x ≠ ',' := by
  have digit := isDigit_of_mem_decimal h
  rintro rfl
  cases digit

theorem dropWhile_decimal (n : Nat) (rest : List Char) :
    ((decimal n ++ ',' :: rest).dropWhile (· ≠ ',')).tail = rest := by
  rw [List.dropWhile_append_of_pos fun x hx => by simpa using ne_comma_of_mem_decimal hx]
  simp

theorem takeWhile_decimal (n : Nat) (rest : List Char) :
    (decimal n ++ ',' :: rest).takeWhile (· ≠ ',') = decimal n := by
  rw [List.takeWhile_append_of_pos fun x hx => by simpa using ne_comma_of_mem_decimal hx]
  simp

theorem toList_encode {config : FrameConfig} {f : Frame} {text : String}
    (h : f.encode config = .ok text) :
    text.toList = '[' :: (decimal config.version ++ ',' :: (decimal f.kind.code ++ ',' ::
      (decimal f.sequence ++ ',' :: (f.body.chars ++ [']'])))) := by
  unfold Frame.encode at h
  split at h
  next fs hb =>
    simp only at h
    split at h
    next =>
      cases h
      simp [Value.compact, Frame.envelope, Value.chars, Value.itemsChars, Number.text, signedDecimal]
    next => cases h
  next => cases h

/-- The sequence of a frame can be read off its text. -/
theorem sequenceIn_encode {config : FrameConfig} {f : Frame} {text : String}
    (h : f.encode config = .ok text) : sequenceIn text = f.sequence := by
  have bracket : ∀ rest : List Char, (('[' :: rest).dropWhile (· ≠ ',')) = rest.dropWhile (· ≠ ',') :=
    fun rest => rfl
  unfold sequenceIn
  simp only [toList_encode h, bracket, dropWhile_decimal, takeWhile_decimal, ofDigits_decimal]

namespace Client

/-- The texts that the client has written, on all its links, in their order. -/
def texts (c : Client) : List String :=
  c.written.filterMap fun w => w.2.text?

/-- The requests of a client are numbered from one on, in the order in which they were written. -/
structure Numbered (config : FrameConfig) (c : Client) (past : List Event) : Prop where
  frames : ∀ k text, c.texts[k]? = some text → ∃ p body, .sent p body ∈ past ∧ p.sequence = k + 1 ∧
    (Frame.request (k + 1) body).encode config = .ok text
  requests : (requests past).reverse.map (·.sequence) = List.range' 1 c.texts.length
  next : c.correlator.next = c.texts.length + 1

variable {config : FrameConfig} {c : Client} {past : List Event}

theorem Numbered.quiet {after : Client} {e : Event} (h : Numbered config c past)
    (same : after.texts = c.texts) (next : after.correlator.next = c.correlator.next)
    (unsent : ∀ p body, e ≠ .sent p body) : Numbered config after (e :: past) := by
  have fewer : Client.requests (e :: past) = Client.requests past := by
    cases e with
    | sent p body => exact absurd rfl (unsent p body)
    | _ => rfl
  refine ⟨?_, ?_, ?_⟩
  · intro k text hk
    obtain ⟨p, body, hp, hs, he⟩ := h.frames k text (same ▸ hk)
    exact ⟨p, body, List.mem_cons_of_mem _ hp, hs, he⟩
  · rw [fewer, same]
    exact h.requests
  · rw [next, same]
    exact h.next

theorem Numbered.sent {after : Client} {link : ActiveLink} {body : RequestBody} {text : String}
    {purpose : Purpose} (h : Numbered config c past) (hs : c.Sends link body text)
    (hc : c.config = config) (same : after.written = (c.sentOn link text purpose).written)
    (next : after.correlator.next = c.correlator.next + 1) :
    Numbered config after (.sent ⟨c.correlator.next, link.generation, purpose⟩ body :: past) := by
  have grows : after.texts = c.texts ++ [text] := by
    unfold texts
    rw [same]
    simp [sentOn, Outbound.text?]
  have encodes : (Frame.request (c.texts.length + 1) body).encode config = .ok text := by
    rw [← h.next, ← hc]
    exact hs.encodes
  refine ⟨?_, ?_, ?_⟩
  · intro k found hk
    rw [grows] at hk
    by_cases old : k < c.texts.length
    · rw [List.getElem?_append_left old] at hk
      obtain ⟨p, body', hp, hseq, he⟩ := h.frames k found hk
      exact ⟨p, body', List.mem_cons_of_mem _ hp, hseq, he⟩
    · have last : k = c.texts.length := by
        have bound := (List.getElem?_eq_some_iff.mp hk).1
        rw [List.length_append, List.length_singleton] at bound
        omega
      subst last
      have this : found = text := by simpa using hk.symm
      subst this
      exact ⟨_, body, List.mem_cons_self, h.next, encodes⟩
  · have cons : Client.requests (.sent ⟨c.correlator.next, link.generation, purpose⟩ body :: past) =
        ⟨c.correlator.next, link.generation, purpose⟩ :: Client.requests past := rfl
    rw [cons, List.reverse_cons, List.map_append, h.requests, grows, List.length_append,
      List.length_singleton, List.range'_concat]
    simp [h.next, Nat.add_comm]
  · rw [next, h.next, grows, List.length_append, List.length_singleton]

theorem texts_of_written {after : Client} (h : after.written.filter isText = c.written.filter isText) :
    after.texts = c.texts := by
  have only : ∀ written : List (Nat × Outbound), (written.filterMap fun w => w.2.text?) =
      (written.filter isText).filterMap fun w => w.2.text? := by
    intro written
    rw [List.filterMap_filter]
    refine List.filterMap_congr fun w _ => ?_
    obtain ⟨g, out⟩ := w
    cases out <;> rfl
  unfold texts
  rw [only, h, ← only]

theorem traced_numbered (h : Traced config c past) : Numbered config c past := by
  induction h with
  | start => exact ⟨nofun, rfl, rfl⟩
  | skip _ ih => exact ⟨ih.frames, ih.requests, ih.next⟩
  | refuse _ _ _ ih => exact ⟨ih.frames, ih.requests, ih.next⟩
  | @next c past e after ht hn ih =>
    have hc := traced_config ht
    cases hn with
    | lost hl => exact ih.quiet (texts_of_written (texts_write_close c _)) rfl (by simp)
    | shut hc => exact ih.quiet (texts_of_written (texts_farewell c)) rfl (by simp)
    | subscribed hs | requested hs | replayed hs => exact ih.sent hs hc rfl rfl
    | _ => exact ih.quiet rfl rfl (by simp)

theorem Numbered.sequences (h : Numbered config c past) :
    c.texts.map sequenceIn = List.range' 1 c.texts.length := by
  apply List.ext_getElem
  · simp
  · intro k hk hk'
    have bound : k < c.texts.length := by simpa using hk
    obtain ⟨p, body, -, -, he⟩ := h.frames k c.texts[k] (List.getElem?_eq_getElem bound)
    have read := sequenceIn_encode he
    rw [List.getElem_map, read, List.getElem_range']
    simp [Frame.request, Nat.add_comm]

/-- What becomes of the numbers in the steps that can write a request. Only what is written takes one. -/
structure TakesNext (c : Client) (past : List Event) : Prop where
  subscribed : ∀ topic s, (c.subscribe topic).2 = .ok s →
    s = c.texts.length + 1 ∧ (c.subscribe topic).1.correlator.next = s + 1
  requested : ∀ body s, (c.request body).2 = .ok s →
    s = c.texts.length + 1 ∧ (c.request body).1.correlator.next = s + 1
  notSubscribed : ∀ topic e, (c.subscribe topic).2 = .error e →
    (c.subscribe topic).1 = { c with nextId := c.nextId + 1 }
  notRequested : ∀ body e, (c.request body).2 = .error e → (c.request body).1 = c
  replayed : ∀ s g, FirstInfo c past s g → ∃ fs,
    Restores c (c.step s) past ((c.events s).reverse ++ past) g fs ∧
      (c.step s).correlator.next = c.correlator.next + (fs.filterMap sequenceOf).length
  closed : c.close.correlator.next = c.correlator.next

theorem subscribe_of_error {topic : Topic} {e : ClientError} (h : (c.subscribe topic).2 = .error e) :
    (c.subscribe topic).1 = { c with nextId := c.nextId + 1 } := by
  unfold subscribe at h ⊢
  simp only at h ⊢
  split at h
  next => rfl
  next => cases h

theorem subscribe_of_ok {topic : Topic} {s : Nat} (h : (c.subscribe topic).2 = .ok s) :
    s = c.correlator.next ∧ (c.subscribe topic).1.correlator.next = s + 1 := by
  unfold subscribe at h ⊢
  simp only at h ⊢
  split at h
  next => cases h
  next after hs =>
    cases h
    obtain ⟨link, text, -, rfl⟩ := sends_of_sendRequest hs
    exact ⟨rfl, rfl⟩

theorem request_of_error {body : RequestBody} {e : ClientError} (h : (c.request body).2 = .error e) :
    (c.request body).1 = c := by
  unfold request at h ⊢
  simp only at h ⊢
  split at h
  next => rfl
  next => cases h

theorem request_of_ok {body : RequestBody} {s : Nat} (h : (c.request body).2 = .ok s) :
    s = c.correlator.next ∧ (c.request body).1.correlator.next = s + 1 := by
  unfold request at h ⊢
  simp only at h ⊢
  split at h
  next => cases h
  next after hs =>
    cases h
    obtain ⟨link, text, -, rfl⟩ := sends_of_sendRequest hs
    exact ⟨rfl, rfl⟩

theorem length_texts_of_round {after : Client} {g : Nat} {fs : List ((Nat × Topic) × Fate)}
    (h : after.written = c.written ++ fs.filterMap (wireOf g)) :
    after.texts.length = c.texts.length + (fs.filterMap sequenceOf).length := by
  have each : ∀ fs : List ((Nat × Topic) × Fate),
      ((fs.filterMap (wireOf g)).filterMap fun w => w.2.text?).length =
        (fs.filterMap sequenceOf).length := by
    intro fs
    induction fs with
    | nil => rfl
    | cons f rest ih =>
      obtain ⟨d, fate⟩ := f
      cases fate with
      | written sequence text => simpa [wireOf, sequenceOf, Outbound.text?] using ih
      | unencodable | refused =>
        rw [List.filterMap_cons_none rfl, List.filterMap_cons_none rfl]
        exact ih
  unfold texts
  rw [h, List.filterMap_append, List.length_append, each]

theorem takesNext (h : Traced config c past) : TakesNext c past := by
  have numbered := traced_numbered h
  refine ⟨?_, ?_, fun _ _ => subscribe_of_error, fun _ _ => request_of_error, ?_, ?_⟩
  · intro topic s hs
    obtain ⟨first, next⟩ := subscribe_of_ok hs
    exact ⟨first.trans numbered.next, next⟩
  · intro body s hs
    obtain ⟨first, next⟩ := request_of_ok hs
    exact ⟨first.trans numbered.next, next⟩
  · intro s g first
    obtain ⟨fs, restores⟩ := restores_of_firstInfo h first
    have after := traced_numbered (lasting_step (lasting_traced config) h s)
    have longer := length_texts_of_round restores.texts
    refine ⟨fs, restores, ?_⟩
    rw [after.next, numbered.next, longer]
    omega
  · cases hc : c.closed with
    | true => simp [close, hc]
    | false => rw [close_eq hc]

/-- In every run, the requests on the wires bear the sequences from one on without a gap, and what is
not written takes none. -/
theorem sequences_without_gap (config : FrameConfig) (steps : List Step) :
    ((fresh config).run steps).texts.map sequenceIn =
      List.range' 1 ((fresh config).run steps).texts.length ∧
    Numbered config ((fresh config).run steps) (history config steps) ∧
    TakesNext ((fresh config).run steps) (history config steps) :=
  have h := traced_run config steps
  ⟨(traced_numbered h).sequences, traced_numbered h, takesNext h⟩

/-- The second link of a short run, which has room for one more request, says who the client is. -/
def scarceReplay : List Step :=
  scarcity ++ [.message 2 "[1,4,0,\x7b\"dt\":\"CONNECTION_INFO\",\"data\":\x7b\x7d\x7d]"]

/-- Of two replays only the first goes out, and the other one takes no sequence. -/
theorem sequences_in_scarcity :
    ((fresh {}).run scarceReplay).texts.map sequenceIn = [1, 2, 3] ∧
      ((fresh {}).run scarceReplay).correlator.next = 4 := by
  obtain ⟨sequences, numbered, -⟩ := sequences_without_gap {} scarceReplay
  have three : ((fresh {}).run scarceReplay).texts.length = 3 := by decide +kernel
  rw [three] at sequences
  exact ⟨sequences, by rw [numbered.next, three]⟩

end Client

end Telemux

import Mathlib.Data.List.Forall2
import Mathlib.Data.List.Induction
import Telemux.Proofs.Interruption
import Telemux.Proofs.Isolation
import Telemux.Proofs.Outcome

namespace Telemux

/-- Among accepted parameters, the last entry of a number has this name. -/
def LastEntry (ps : List SubscribedParameter) (n : Nat) (id : NamedObjectId) : Prop :=
  ∃ before after, ps = before ++ ⟨id, n⟩ :: after ∧ ∀ p ∈ after, p.numericId ≠ n

section

variable {ps : List SubscribedParameter} {n : Nat} {id : NamedObjectId}

theorem lastEntry_concat {p : SubscribedParameter} :
    LastEntry (ps ++ [p]) n id ↔ p = ⟨id, n⟩ ∨ p.numericId ≠ n ∧ LastEntry ps n id := by
  constructor
  · rintro ⟨before, after, split, none⟩
    rcases List.eq_nil_or_concat after with rfl | ⟨after, last, rfl⟩
    · exact .inl (List.singleton_inj.mp (List.append_inj' split rfl).2)
    · have whole : ps ++ [p] = (before ++ ⟨id, n⟩ :: after) ++ [last] := by simpa using split
      obtain ⟨front, same⟩ := List.append_inj' whole rfl
      rw [List.singleton_inj.mp same]
      exact .inr ⟨none last (by simp), before, after, front, fun q hq => none q (by simp [hq])⟩
  · rintro (rfl | ⟨other, before, after, rfl, none⟩)
    · exact ⟨ps, [], rfl, by simp⟩
    · refine ⟨before, after ++ [p], by simp, fun q hq => ?_⟩
      rcases List.mem_append.mp hq with hq | hq
      · exact none q hq
      · rw [List.mem_singleton.mp hq]
        exact other

namespace NumericMapping

theorem ofSubscribed_concat (ps : List SubscribedParameter) (p : SubscribedParameter) :
    ofSubscribed (ps ++ [p]) = (ofSubscribed ps).insert p.numericId p.id :=
  List.foldl_concat _ _ _ _

theorem find?_ofSubscribed : (ofSubscribed ps).find? n = some id ↔ LastEntry ps n id := by
  induction ps using List.reverseRecOn with
  | nil => simp [ofSubscribed, LastEntry]
  | append_singleton ps p ih =>
    rw [ofSubscribed_concat, Table.find?_insert, lastEntry_concat, ← ih]
    obtain ⟨name, number⟩ := p
    by_cases own : n = number
    · simp [own]
    · simp [own, Ne.symm own]

theorem find?_ofSubscribed_eq_none :
    (ofSubscribed ps).find? n = none ↔ ∀ p ∈ ps, p.numericId ≠ n := by
  induction ps using List.reverseRecOn with
  | nil => simp [ofSubscribed]
  | append_singleton ps p ih =>
    rw [ofSubscribed_concat, Table.find?_insert]
    by_cases own : n = p.numericId
    · simp [own]
    · rw [if_neg own, ih]
      simp [or_imp, forall_and, Ne.symm own]

/-- A mapping has one pair for each number among the accepted parameters, and the name in that pair is
the one in the last entry of the number. -/
structure Lists (mapping : NumericMapping) (ps : List SubscribedParameter) : Prop where
  ascending : mapping.keys.Pairwise (· < ·)
  numbers : ∀ n, n ∈ mapping.keys ↔ ∃ p ∈ ps, p.numericId = n
  names : ∀ n id, (n, id) ∈ mapping.entries ↔ LastEntry ps n id

theorem lists_ofSubscribed (ps : List SubscribedParameter) : (ofSubscribed ps).Lists ps where
  ascending := List.pairwise_map.mpr (ofSubscribed ps).sorted
  numbers n := by
    rw [Table.mem_keys_iff, Table.contains, Option.isSome_iff_ne_none, Ne, find?_ofSubscribed_eq_none]
    simp
  names n id := by rw [Table.mem_entries_iff, find?_ofSubscribed]

end NumericMapping

end

/-- What a sample becomes: only a name is added, and that where it has none and its number is among the
accepted parameters. -/
structure ParameterValue.NamedBy (ps : List SubscribedParameter) (v w : ParameterValue) : Prop where
  numericId : w.numericId = v.numericId
  extra : w.extra = v.extra
  kept : ∀ id, v.id = some id → w.id = some id
  named : v.id = none → ∀ n id, v.numericId = some n → LastEntry ps n id → w.id = some id
  nameless : v.id = none → (∀ n, v.numericId = some n → ∀ p ∈ ps, p.numericId ≠ n) → w.id = none

theorem ParameterValue.namedBy_restoreId (ps : List SubscribedParameter) (v : ParameterValue) :
    NamedBy ps v (v.restoreId (.ofSubscribed ps)) := by
  unfold restoreId
  split
  next own named =>
    refine ⟨rfl, rfl, fun _ same => same, fun unnamed => ?_, fun unnamed => ?_⟩ <;>
      cases named.symm.trans unnamed
  next unnamed =>
    refine ⟨rfl, rfl, fun id named => ?_, ?_, ?_⟩
    · cases unnamed.symm.trans named
    · intro _ n id number last
      rw [number]
      exact NumericMapping.find?_ofSubscribed.mpr last
    · intro _ unknown
      cases hn : v.numericId with
      | none => rfl
      | some n => exact NumericMapping.find?_ofSubscribed_eq_none.mpr (unknown n hn)

/-- What pushed samples become: each keeps its place, and has a name where it can have one. -/
structure ParameterData.NamedBy (ps : List SubscribedParameter) (pushed data : ParameterData) : Prop where
  subscriptionId : data.subscriptionId = pushed.subscriptionId
  samples : List.Forall₂ (ParameterValue.NamedBy ps) pushed.parameter data.parameter

theorem ParameterData.namedBy_restoreIds (ps : List SubscribedParameter) (d : ParameterData) :
    NamedBy ps d (d.restoreIds (.ofSubscribed ps)) :=
  ⟨rfl, List.forall₂_map_right_iff.mpr
    (List.forall₂_same.mpr fun v _ => v.namedBy_restoreId ps)⟩

/-- Only a topic of parameters takes a reply about parameters, and that has the mapping of those that it
accepts. -/
theorem InitialReply.parameters_of_decode {topic : Topic} {body : ReplyBody} {reply : ParameterReply}
    (h : decode topic body = .ok (.parameters reply)) :
    (∃ request, topic = .parameters request) ∧ reply.mapping = .ofSubscribed reply.subscribed := by
  unfold decode at h
  split at h
  next => split at h <;> cases h
  next data _ =>
    have read := ok_of_mapError h
    cases topic with
    | parameters request =>
      obtain ⟨told, made, same⟩ := exists_of_map read
      cases same
      obtain ⟨found, -, rfl⟩ := exists_of_map made
      exact ⟨⟨request, rfl⟩, rfl⟩
    | time | processors options =>
      obtain ⟨_, -, same⟩ := exists_of_map read
      cases same
    | _ => cases read

namespace Client

variable {config : FrameConfig} {c : Client} {past : List Event} {id : Nat}

theorem answer_of_confirmed {e : Event} {g : Nat} {reply : InitialReply}
    (h : confirmed? id past e = some (g, reply)) :
    ∃ topic f, e = .terminal g f ∧ answerTo topic f = .ok reply := by
  obtain ⟨f, rfl⟩ := terminal_of_confirmed h
  obtain ⟨p, -, h⟩ := Option.bind_eq_some_iff.mp h
  obtain ⟨⟨k, topic⟩, -, h⟩ := Option.bind_eq_some_iff.mp h
  by_cases own : k = id
  · obtain ⟨r, answer, same⟩ := Option.map_eq_some_iff.mp ((if_pos own).symm.trans h)
    cases same
    refine ⟨topic, f, rfl, ?_⟩
    cases ha : answerTo topic f with
    | error e => simp [ha, Except.toOption] at answer
    | ok r =>
      rw [ha] at answer
      cases answer
      rfl
  · cases (if_neg own).symm.trans h

theorem mapping_of_lastReply {g : Nat} {reply : ParameterReply}
    (h : lastReply id past = some (g, .parameters reply)) :
    reply.mapping = .ofSubscribed reply.subscribed := by
  obtain ⟨_, _, _, -, told⟩ := exists_confirmed h
  obtain ⟨topic, f, -, answer⟩ := answer_of_confirmed told
  obtain ⟨body, read⟩ := exists_decode answer
  exact (InitialReply.parameters_of_decode read).2

/-- What a subscribe call hands to its caller is what its subscription was told. -/
theorem told_of_call (h : Traced config c past) {s : Nat} {call : Call} {reply : InitialReply}
    (hc : c.calls.find? s = some call) (ho : call.outcome = some (.ok (.initial reply))) :
    ∃ id newer g f older, call.handle = some id ∧ past = newer ++ .terminal g f :: older ∧
      lastReply id (.terminal g f :: older) = some (g, reply) := by
  obtain ⟨p, body, later, earlier, rfl, rfl, isCall, -, rfl⟩ := traced_call_sent h hc
  obtain ⟨v, hv, ho⟩ := Option.map_eq_some_iff.mp ho
  obtain ⟨id, topic, f, hq, rfl, answer⟩ : ∃ id topic f, p.purpose = .subscribe id topic ∧
      v = .answered f ∧ answerTo topic f = .ok reply := by
    cases hq : p.purpose with
    | request =>
      rw [hq] at ho
      cases v with
      | answered f =>
        cases ha : answerOf f <;> simp [outcomeOf, ha, Except.map] at ho
      | _ => cases ho
    | replay => simp [hq, Purpose.isCall] at isCall
    | subscribe id topic =>
      rw [hq] at ho
      cases v with
      | answered f =>
        refine ⟨id, topic, f, rfl, rfl, ?_⟩
        cases ha : answerTo topic f with
        | error e => simp [outcomeOf, ha, Except.map] at ho
        | ok r => simpa [outcomeOf, ha, Except.map] using ho
      | _ => cases ho
  obtain ⟨newer, e, older, rfl, settled, unsettled⟩ := verdict_eq_some_iff.mp hv
  obtain ⟨rfl, sequence⟩ : e = .terminal p.generation f ∧ f.sequence = p.sequence := by
    cases e <;> simp [settles] at settled
    obtain ⟨⟨rfl, sequence⟩, rfl⟩ := settled
    exact ⟨rfl, sequence⟩
  rw [List.append_assoc, List.cons_append] at h ⊢
  obtain ⟨after, ht⟩ := traced_append h
  obtain ⟨before, _, hb, -⟩ := traced_cons ht
  have waits : p ∈ waiting (older ++ .sent p body :: earlier) := by
    rw [traced_mem_waiting hb rfl, verdict, List.findSome?_eq_none_iff]
    simpa using unsettled
  obtain ⟨link, hl, hg⟩ := traced_waiting_link hb waits
  have pends := (traced_waiting hb).mpr ⟨waits, sequence.symm⟩
  have told : confirmed? id _ (.terminal link.generation f) = _ :=
    confirmed?_answer hb hl pends (by rw [hq]; rfl)
  rw [if_pos rfl, answer, ← hg] at told
  exact ⟨id, newer, p.generation, f, _, by rw [hq]; rfl, rfl, lastReply_cons_of_some told⟩

/-- In a client with its history, the names of samples come from the last reply: its mapping has the last
entry of each number, a caller gets the reply with that mapping, and a push under the number that the
reply gave is delivered with names by it. -/
structure NamesSamples (config : FrameConfig) (c : Client) (past : List Event) : Prop where
  told : ∀ id g reply, lastReply id past = some (g, .parameters reply) →
    reply.mapping.Lists reply.subscribed
  returned : ∀ s reply, (c.collect s).2 = some (.ok (.initial (.parameters reply))) →
    reply.mapping.Lists reply.subscribed ∧ ∃ id newer g f older,
      (c.calls.find? s).bind (·.handle) = some id ∧ past = newer ++ .terminal g f :: older ∧
      lastReply id (.terminal g f :: older) = some (g, .parameters reply)
  delivered : ∀ id g reply, c.registry.contains id = true →
    lastReply id past = some (g, .parameters reply) → c.isCurrent g = true →
    ∀ text tag data pushed, Pushes config text tag data (some (.parameters pushed)) →
      pushed.subscriptionId = reply.subscriptionId →
      ∃ handle named, c.handles.find? id = some handle ∧
        (c.message g text).handles.find? id =
          some { handle with queue := handle.queue ++ [.ok (.parameters named)] } ∧
        pushed.NamedBy reply.subscribed named

theorem exists_call_of_collect {s : Nat} {o : Outcome} (h : (c.collect s).2 = some o) :
    ∃ call, c.calls.find? s = some call ∧ call.outcome = some o := by
  unfold collect at h
  split at h
  next handle outcome hc =>
    refine ⟨_, hc, ?_⟩
    split at h <;> exact h
  next => cases h

theorem namesSamples (h : Traced config c past) : NamesSamples config c past where
  told id g reply last := mapping_of_lastReply last ▸ NumericMapping.lists_ofSubscribed _
  returned s reply fetched := by
    obtain ⟨call, hc, outcome⟩ := exists_call_of_collect fetched
    obtain ⟨id, newer, g, f, older, handle, split, last⟩ := told_of_call h hc outcome
    refine ⟨mapping_of_lastReply last ▸ NumericMapping.lists_ofSubscribed _, id, newer, g, f, older, ?_, split, last⟩
    rw [hc]
    exact handle
  delivered id g reply there last current text tag data pushed pushes number := by
    obtain ⟨s, hs⟩ := Option.isSome_iff_exists.mp there
    obtain ⟨told, bound⟩ := traced_bound h hs
    obtain ⟨generation, same⟩ := Prod.mk.inj (Option.some.inj (bound.last.symm.trans last))
    subst same
    obtain ⟨link, hl, rfl⟩ := isCurrent_iff.mp current
    obtain ⟨body, read⟩ := bound.suits
    obtain ⟨⟨request, topic⟩, mapping⟩ := InitialReply.parameters_of_decode read
    have route : c.routes.find? id =
        some ⟨.parameters request, some ⟨reply.subscriptionId, reply.mapping⟩⟩ := by
      rw [bound.route, generation, current, topic]
      rfl
    have takes : (⟨.parameters request, some ⟨reply.subscriptionId, reply.mapping⟩⟩ : Route).deliver
        (.parameters pushed) = some (.parameters (pushed.restoreIds reply.mapping)) := by
      simp [Route.deliver, Topic.accepts, number]
    have sifted := sifted_message h hl pushes route
    have belongs := (delivered_iff pushes.decodes _ _).mp (Option.isSome_iff_exists.mpr ⟨_, takes⟩)
    obtain ⟨handle, event, found, delivers, after⟩ := sifted.taken belongs
    cases takes.symm.trans delivers
    exact ⟨handle, _, found, after, mapping ▸ pushed.namedBy_restoreIds _⟩

/-- In every run, samples have their own names, or else those that the last reply to their subscription
gives to their numbers in its last entries. -/
theorem samples_named_by_reply (config : FrameConfig) (steps : List Step) :
    NamesSamples config ((fresh config).run steps) (history config steps) :=
  namesSamples (traced_run config steps)

/-- A subscription that is told two names for the number one. -/
def twiceNamed : List Step :=
  [.attach none, .subscribe (.parameters (.numeric ["a", "b"])),
    .message 1 ("[1,2,1,\x7b\"data\":\x7b\"subscriptionId\":4,\"subscribed\":[" ++
      "\x7b\"id\":\x7b\"name\":\"a\"\x7d,\"numericId\":1\x7d," ++
      "\x7b\"id\":\x7b\"name\":\"b\"\x7d,\"numericId\":2\x7d," ++
      "\x7b\"id\":\x7b\"name\":\"c\"\x7d,\"numericId\":1\x7d]\x7d\x7d]")]

def renamed : List SubscribedParameter :=
  [⟨.ofName "a", 1⟩, ⟨.ofName "b", 2⟩, ⟨.ofName "c", 1⟩]

/-- Samples with a number that has two names, with a name of their own, and without any. -/
def mixedPush : String :=
  "[1,4,0,\x7b\"dt\":\"PARAMETER\",\"data\":\x7b\"subscriptionId\":4,\"parameter\":[" ++
    "\x7b\"numericId\":1,\"raw\":true\x7d,\x7b\"id\":\x7b\"name\":\"z\"\x7d,\"numericId\":2\x7d," ++
    "\x7b\"numericId\":9\x7d,\x7b\x7d]\x7d\x7d]"

def mixedData : Value :=
  .object [("subscriptionId", .number (.int 4)), ("parameter", .array
    [.object [("numericId", .number (.int 1)), ("raw", .bool true)],
      .object [("id", .object [("name", .string "z")]), ("numericId", .number (.int 2))],
      .object [("numericId", .number (.int 9))], .object []])]

def mixedSamples : ParameterData :=
  ⟨some 4, [⟨none, some 1, [("raw", .bool true)]⟩, ⟨some (.ofName "z"), some 2, []⟩, ⟨none, some 9, []⟩,
    ⟨none, none, []⟩]⟩

theorem mixedSamples_named :
    (∃ reply, (((fresh {}).run twiceNamed).collect 1).2 = some (.ok (.initial (.parameters reply))) ∧
      reply.mapping.keys = [1, 2] ∧ reply.mapping.Lists renamed) ∧
    ∃ (handle : Handle) (named : ParameterData), (((fresh {}).run twiceNamed).message 1 mixedPush).handles.find? 1 =
        some { handle with queue := handle.queue ++ [.ok (.parameters named)] } ∧
      mixedSamples.NamedBy renamed named ∧
      named.parameter.map (·.id) = [some (.ofName "c"), some (.ofName "z"), none, none] := by
  have names := samples_named_by_reply {} twiceNamed
  have pushes : Pushes {} mixedPush "PARAMETER" mixedData (some (.parameters mixedSamples)) :=
    ⟨⟨⟨1, .data, 0, .object [("dt", .string "PARAMETER"), ("data", mixedData)]⟩,
      by decide +kernel, by decide +kernel⟩, by decide +kernel⟩
  obtain ⟨fetched, there, last, current⟩ :
      (((fresh {}).run twiceNamed).collect 1).2 =
        some (.ok (.initial (.parameters ⟨some 4, renamed, [], .ofSubscribed renamed⟩))) ∧
      ((fresh {}).run twiceNamed).registry.contains 1 = true ∧
      lastReply 1 (history {} twiceNamed) =
        some (1, .parameters ⟨some 4, renamed, [], .ofSubscribed renamed⟩) ∧
      ((fresh {}).run twiceNamed).isCurrent 1 = true := by
    decide +kernel
  refine ⟨⟨_, fetched, by decide, (names.returned 1 _ fetched).1⟩, ?_⟩
  obtain ⟨handle, named, -, delivered, by_reply⟩ :=
    names.delivered 1 1 _ there last current _ _ _ _ pushes rfl
  refine ⟨handle, named, delivered, by_reply, ?_⟩
  obtain ⟨subscriptionId, samples⟩ := by_reply
  obtain ⟨_, given⟩ := named
  match samples with
  | .cons first (.cons second (.cons third (.cons fourth .nil))) =>
    have renames : LastEntry renamed 1 (.ofName "c") := ⟨[⟨.ofName "a", 1⟩, ⟨.ofName "b", 2⟩], [], rfl, nofun⟩
    have unknown : ∀ n, some 9 = some n → ∀ p ∈ renamed, p.numericId ≠ n := by
      rintro _ ⟨⟩
      decide
    simp [first.named rfl 1 _ rfl renames, second.kept _ rfl, third.nameless rfl unknown,
      fourth.nameless rfl nofun]

end Client

end Telemux

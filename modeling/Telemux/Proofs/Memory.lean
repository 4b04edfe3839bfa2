import Telemux.Link.Memory
import Telemux.Proofs.Socket
import Telemux.Proofs.Transcript

namespace Telemux

def Inbound.text? : Inbound → Option String
  | .message t => some t
  | _ => none

theorem textsBeforeClose_append_close (outs rest : List Outbound) :
    textsBeforeClose (outs ++ .close :: rest) = textsBeforeClose outs := by
  induction outs with
  | nil => rfl
  | cons out outs ih =>
    cases out with
    | text t => exact congrArg (t :: ·) ih
    | close => rfl

theorem textsBeforeClose_isPrefix (outs : List Outbound) :
    textsBeforeClose outs <+: outs.filterMap Outbound.text? := by
  induction outs with
  | nil => exact List.nil_prefix
  | cons out outs ih =>
    cases out with
    | text t => exact List.cons_prefix_cons.mpr ⟨rfl, ih⟩
    | close => exact List.nil_prefix

/-- Where no text stands behind a wish to close, all texts stand in front of it. -/
theorem texts_eq_textsBeforeClose {outs : List Outbound}
    (ends : outs.Pairwise fun x y => x = .close → y.text? = none) :
    outs.filterMap Outbound.text? = textsBeforeClose outs := by
  induction outs with
  | nil => rfl
  | cons out outs ih =>
    obtain ⟨behind, rest⟩ := List.pairwise_cons.mp ends
    cases out with
    | text t => exact congrArg (t :: ·) (ih rest)
    | close =>
      show outs.filterMap Outbound.text? = []
      exact List.filterMap_eq_nil_iff.mpr fun out ho => behind out ho rfl

/-- Where nothing stands behind an end, the events are messages and then at most one end. -/
theorem exists_ending {events : List Inbound} (inside : .opened ∉ events)
    (last : events.Pairwise fun e _ => e.isClosed = false) :
    ∃ ending : Option CloseReason,
      events = (events.filterMap Inbound.text?).map .message ++ ending.toList.map .closed := by
  induction events with
  | nil => exact ⟨none, rfl⟩
  | cons e events ih =>
    obtain ⟨behind, rest⟩ := List.pairwise_cons.mp last
    obtain ⟨ending, told⟩ := ih (fun h => inside (List.mem_cons_of_mem _ h)) rest
    cases e with
    | opened => exact absurd List.mem_cons_self inside
    | message t => exact ⟨ending, congrArg (.message t :: ·) told⟩
    | closed reason =>
      cases events with
      | nil => exact ⟨some reason, rfl⟩
      | cons next _ => cases behind next List.mem_cons_self

namespace MemoryLink

/-- What the client hands over in an exchange. To close always seems to succeed. -/
def offeredIn : Action × Response → Option Outbound
  | (.clientSend t, .done) => some (.text t)
  | (.clientClose, .done) => some .close
  | _ => none

/-- What the server tells the client in an exchange. -/
def toldIn : Action × Response → Option Inbound
  | (.serverSend t, .done) => some (.message t)
  | (.serverClose reason, .done) => some (.closed ⟨none, reason⟩)
  | _ => none

def receivedIn : Action × Response → Option String
  | (.serverReceive, .text t) | (.serverTryReceive, .text t) => some t
  | _ => none

def readIn : Action × Response → Option Inbound
  | (.clientNext, .event e) => some e
  | _ => none

/-- Whether the server closes its side in an exchange or drops it. -/
def leavesIn : Action × Response → Bool
  | (.serverClose _, .done) | (.serverDrop, .done) => true
  | _ => false

variable (past : List (Action × Response))

def offered : List Outbound :=
  past.filterMap offeredIn

/-- The texts that the client has sent and that were not refused. -/
def sent : List String :=
  (offered past).filterMap Outbound.text?

def told : List Inbound :=
  past.filterMap toldIn

/-- The texts that the server has sent and that were not refused. -/
def pushed : List String :=
  (told past).filterMap Inbound.text?

def received : List String :=
  past.filterMap receivedIn

def read : List Inbound :=
  past.filterMap readIn

def left : Bool :=
  past.any leavesIn

/-- What was asked of a link since it was opened, each with its answer. -/
def history (actions : List Action) : List (Action × Response) :=
  transcript act {} actions

def after (actions : List Action) : MemoryLink :=
  reached act {} actions

/-- All events that the client is given: those it has read and those it can still read. -/
def stream (actions : List Action) : List Inbound :=
  read (history actions) ++ (after actions).incoming

def Action.receives : Action → Bool
  | .serverReceive | .serverTryReceive => true
  | _ => false

def Action.tells : Action → Bool
  | .serverSend _ | .serverClose _ => true
  | _ => false

def Action.closesServer : Action → Bool
  | .serverClose _ => true
  | _ => false

def Action.sendsText : Action → Bool
  | .clientSend _ => true
  | _ => false

/-- The server says no more once it has closed. -/
def ServerEnds (actions : List Action) : Prop :=
  actions.Pairwise fun a b => a.closesServer = true → b.tells = false

/-- The client sends no text once it has closed. -/
def ClientEnds (actions : List Action) : Prop :=
  actions.Pairwise fun a b => a = .clientClose → b.sendsText = false

instance (actions : List Action) : Decidable (ServerEnds actions) :=
  inferInstanceAs (Decidable (actions.Pairwise _))

instance (actions : List Action) : Decidable (ClientEnds actions) :=
  inferInstanceAs (Decidable (actions.Pairwise _))

variable {past} {l next : MemoryLink} {a : Action} {r : Response} {actions : List Action}

/-- An exchange in which neither side gives the other anything. -/
structure Silent (w : Action × Response) : Prop where
  offered : offeredIn w = none
  told : toldIn w = none
  received : receivedIn w = none
  read : readIn w = none
  leaves : leavesIn w = false

/-- Whether an answer says that something was handed over or done. -/
def Response.gives : Response → Bool
  | .done | .text _ | .event _ => true
  | _ => false

theorem silent_of_gives (nothing : r.gives = false) : Silent (a, r) := by
  cases r with
  | done | text | event => cases nothing
  | _ => cases a <;> exact ⟨rfl, rfl, rfl, rfl, rfl⟩

/-- Whether an action is only about what is left of the client's end. -/
def Action.parts : Action → Bool
  | .split | .dropSender | .dropReceiver | .clientDrop => true
  | _ => false

theorem silent_of_parts (own : a.parts = true) : Silent (a, r) := by
  cases a with
  | split | dropSender | dropReceiver | clientDrop => exact ⟨rfl, rfl, rfl, rfl, rfl⟩
  | _ => cases own

/-- What an action comes to. -/
inductive Effect (l : MemoryLink) : Action → MemoryLink → Response → Prop
  | idle {a : Action} {r : Response} (silent : Silent (a, r)) : Effect l a l r
  | wrote {a : Action} {out : Outbound} (offers : offeredIn (a, .done) = some out)
    (owned : l.hasSender = true) (willing : l.accepting = true) :
    Effect l a { l with outgoing := l.outgoing ++ [out] } .done
  | ignored (shut : l.accepting = false) : Effect l .clientClose l .done
  | took {a : Action} {out : Outbound} {rest : List Outbound} {r : Response} (asks : a.receives = true)
    (served : l.served = true) (outgoing : l.outgoing = out :: rest)
    (answer : receivedIn (a, r) = out.text?) : Effect l a { l with outgoing := rest } r
  | said {t : String} (served : l.served = true) (listening : l.hasReceiver = true) :
    Effect l (.serverSend t) { l with incoming := l.incoming ++ [.message t] } .done
  | closed {reason : String} (served : l.served = true) (listening : l.hasReceiver = true) :
    Effect l (.serverClose reason)
      { l with accepting := false, incoming := l.incoming ++ [.closed ⟨none, reason⟩] } .done
  | unheard {reason : String} (served : l.served = true) (deaf : l.hasReceiver = false) :
    Effect l (.serverClose reason) { l with accepting := false } .done
  | fetched {e : Inbound} {rest : List Inbound} (listening : l.hasReceiver = true)
    (incoming : l.incoming = e :: rest) : Effect l .clientNext { l with incoming := rest } (.event e)
  | parted {a : Action} {clientEnd : ClientEnd} {incoming : List Inbound} (silent : Silent (a, .done))
    (ears : incoming = l.incoming ∧ ({ l with clientEnd } : MemoryLink).hasReceiver = l.hasReceiver ∨
      incoming = [] ∧ ({ l with clientEnd } : MemoryLink).hasReceiver = false)
    (voice : ({ l with clientEnd } : MemoryLink).hasSender = true → l.hasSender = true) :
    Effect l a { l with clientEnd, incoming } .done
  | dropped : Effect l .serverDrop { l with served := false, accepting := false, outgoing := [] } .done

theorem clientWrite_open (out : Outbound) (h : l.accepting = true) :
    l.clientWrite out = ({ l with outgoing := l.outgoing ++ [out] }, true) :=
  if_pos h

theorem clientWrite_shut (out : Outbound) (h : l.accepting = false) : l.clientWrite out = (l, false) :=
  if_neg (Bool.eq_false_iff.mp h)

theorem serverPush_heard (e : Inbound) (h : l.hasReceiver = true) :
    l.serverPush e = ({ l with incoming := l.incoming ++ [e] }, true) :=
  if_pos h

theorem serverPush_unheard (e : Inbound) (h : l.hasReceiver = false) : l.serverPush e = (l, false) :=
  if_neg (Bool.eq_false_iff.mp h)

/-- What the server takes next if something waits for it. -/
theorem act_of_waiting {out : Outbound} {rest : List Outbound} (asks : a.receives = true)
    (served : l.served = true) (outgoing : l.outgoing = out :: rest) :
    ∃ r, l.act a = ({ l with outgoing := rest }, r) ∧ receivedIn (a, r) = out.text? := by
  cases a with
  | serverReceive =>
    simp only [act, if_pos served, serverReceive, outgoing]
    cases out <;> exact ⟨_, rfl, rfl⟩
  | serverTryReceive =>
    simp only [act, if_pos served, serverTryReceive, serverReceive, outgoing]
    cases out <;> exact ⟨_, rfl, rfl⟩
  | _ => cases asks

theorem serverReceive_of_nothing (outgoing : l.outgoing = []) :
    l.serverReceive = (l, if l.accepting && l.hasSender then .pending else .ended) := by
  rw [serverReceive, outgoing]

theorem act_of_nothing (asks : a.receives = true) (served : l.served = true)
    (outgoing : l.outgoing = []) : ∃ r, l.act a = (l, r) ∧ Silent (a, r) := by
  cases a with
  | serverReceive =>
    simp only [act, if_pos served, serverReceive_of_nothing outgoing]
    cases l.accepting && l.hasSender <;> exact ⟨_, rfl, silent_of_gives rfl⟩
  | serverTryReceive =>
    simp only [act, if_pos served, serverTryReceive, serverReceive_of_nothing outgoing]
    cases l.accepting && l.hasSender <;> exact ⟨_, rfl, silent_of_gives rfl⟩
  | _ => cases asks

theorem effect_giveUp (silent : Silent (a, .done)) : Effect l a l.giveUp .done :=
  .parted silent (.inr ⟨rfl, rfl⟩) fun h => by cases h

theorem effect_clientSend (l : MemoryLink) (t : String) :
    Effect l (.clientSend t) (l.act (.clientSend t)).1 (l.act (.clientSend t)).2 := by
  have offers : offeredIn (.clientSend t, .done) = some (.text t) := rfl
  cases owned : l.hasSender with
  | false =>
    simp only [act, owned]
    exact .idle (silent_of_gives rfl)
  | true =>
    cases willing : l.accepting with
    | true =>
      simp only [act, owned, clientWrite_open _ willing, if_true]
      exact .wrote offers owned willing
    | false =>
      simp only [act, owned, clientWrite_shut _ willing, if_true]
      exact .idle (silent_of_gives rfl)

theorem effect_clientClose (l : MemoryLink) :
    Effect l .clientClose (l.act .clientClose).1 (l.act .clientClose).2 := by
  have offers : offeredIn (.clientClose, .done) = some .close := rfl
  cases owned : l.hasSender with
  | false =>
    simp only [act, owned]
    exact .idle (silent_of_gives rfl)
  | true =>
    cases willing : l.accepting with
    | true =>
      simp only [act, owned, clientWrite_open _ willing, if_true]
      exact .wrote offers owned willing
    | false =>
      simp only [act, owned, clientWrite_shut _ willing, if_true]
      exact .ignored willing

theorem effect_clientNext (l : MemoryLink) :
    Effect l .clientNext (l.act .clientNext).1 (l.act .clientNext).2 := by
  cases listening : l.hasReceiver with
  | false =>
    simp only [act, listening]
    exact .idle (silent_of_gives rfl)
  | true =>
    simp only [act, listening, clientNext, if_true]
    split
    next incoming => exact .fetched listening incoming
    next => split <;> exact .idle (silent_of_gives rfl)

theorem effect_split (l : MemoryLink) : Effect l .split (l.act .split).1 .done := by
  simp only [act]
  split
  next whole =>
    exact .parted (silent_of_parts rfl) (.inl ⟨rfl, by simp [hasReceiver, whole]⟩) fun _ => by
      simp [hasSender, whole]
  next => exact effect_giveUp (silent_of_parts rfl)

theorem effect_dropSender (l : MemoryLink) : Effect l .dropSender l.dropSender .done := by
  fun_cases dropSender l
  case case1 parts =>
    exact .parted (silent_of_parts rfl) (.inl ⟨rfl, by simp [hasReceiver, parts]⟩) fun h => by cases h
  case case2 => exact effect_giveUp (silent_of_parts rfl)
  all_goals exact .idle (silent_of_parts rfl)

theorem effect_dropReceiver (l : MemoryLink) : Effect l .dropReceiver l.dropReceiver .done := by
  fun_cases dropReceiver l
  case case1 parts =>
    exact .parted (silent_of_parts rfl) (.inr ⟨rfl, rfl⟩) fun _ => by simp [hasSender, parts]
  case case2 => exact effect_giveUp (silent_of_parts rfl)
  all_goals exact .idle (silent_of_parts rfl)

theorem effect_serverSend (l : MemoryLink) (t : String) :
    Effect l (.serverSend t) (l.act (.serverSend t)).1 (l.act (.serverSend t)).2 := by
  cases served : l.served with
  | false =>
    simp only [act, served]
    exact .idle (silent_of_gives rfl)
  | true =>
    simp only [act, if_pos served]
    cases listening : l.hasReceiver with
    | true =>
      rw [serverPush_heard _ listening]
      exact .said served listening
    | false =>
      rw [serverPush_unheard _ listening]
      exact .idle (silent_of_gives rfl)

theorem effect_serverClose (l : MemoryLink) (reason : String) : Effect l (.serverClose reason)
    (l.act (.serverClose reason)).1 (l.act (.serverClose reason)).2 := by
  cases served : l.served with
  | false =>
    simp only [act, served]
    exact .idle (silent_of_gives rfl)
  | true =>
    simp only [act, if_pos served]
    -- The receiver is the same before and after the link stops to accept.
    cases listening : ({ l with accepting := false } : MemoryLink).hasReceiver with
    | true =>
      rw [serverPush_heard _ listening]
      exact .closed served listening
    | false =>
      rw [serverPush_unheard _ listening]
      exact .unheard served listening

theorem effect_receive (l : MemoryLink) (asks : a.receives = true) :
    Effect l a (l.act a).1 (l.act a).2 := by
  cases served : l.served with
  | false =>
    cases a with
    | serverReceive | serverTryReceive =>
      simp only [act, served]
      exact .idle (silent_of_gives rfl)
    | _ => cases asks
  | true =>
    cases outgoing : l.outgoing with
    | nil =>
      obtain ⟨r, same, silent⟩ := act_of_nothing asks served outgoing
      rw [same]
      exact .idle silent
    | cons out rest =>
      obtain ⟨r, taken, answer⟩ := act_of_waiting asks served outgoing
      rw [taken]
      exact .took asks served outgoing answer

theorem effect_act (l : MemoryLink) (a : Action) : Effect l a (l.act a).1 (l.act a).2 := by
  cases a with
  | clientSend t => exact effect_clientSend l t
  | clientClose => exact effect_clientClose l
  | clientNext => exact effect_clientNext l
  | isClosed =>
    simp only [act]
    split <;> exact .idle (silent_of_gives rfl)
  | split => exact effect_split l
  | dropSender => exact effect_dropSender l
  | dropReceiver => exact effect_dropReceiver l
  | clientDrop => exact effect_giveUp (silent_of_parts rfl)
  | serverSend t => exact effect_serverSend l t
  | serverClose reason => exact effect_serverClose l reason
  | serverReceive | serverTryReceive => exact effect_receive l rfl
  | serverDrop => exact .dropped

theorem offered_concat (w : Action × Response) :
    offered (past ++ [w]) = offered past ++ (offeredIn w).toList :=
  filterMap_concat _ _ _

theorem told_concat (w : Action × Response) : told (past ++ [w]) = told past ++ (toldIn w).toList :=
  filterMap_concat _ _ _

theorem received_concat (w : Action × Response) :
    received (past ++ [w]) = received past ++ (receivedIn w).toList :=
  filterMap_concat _ _ _

theorem read_concat (w : Action × Response) : read (past ++ [w]) = read past ++ (readIn w).toList :=
  filterMap_concat _ _ _

theorem left_concat (w : Action × Response) : left (past ++ [w]) = (left past || leavesIn w) := by
  simp [left]

/-- What the client hands over is all that there is in an exchange. -/
theorem only_offered {w : Action × Response} {out : Outbound} (h : offeredIn w = some out) :
    toldIn w = none ∧ receivedIn w = none ∧ readIn w = none ∧ leavesIn w = false := by
  unfold offeredIn at h
  split at h
  case h_1 | h_2 => exact ⟨rfl, rfl, rfl, rfl⟩
  case h_3 => cases h

theorem only_received (asks : a.receives = true) (r : Response) :
    offeredIn (a, r) = none ∧ toldIn (a, r) = none ∧ readIn (a, r) = none ∧ leavesIn (a, r) = false := by
  cases a with
  | serverReceive | serverTryReceive => exact ⟨rfl, rfl, rfl, rfl⟩
  | _ => cases asks

/-- What the server tells goes on to where the client can read it, as long as it reads. -/
theorem Effect.tells (h : Effect l a next r) (listening : next.hasReceiver = true) :
    l.hasReceiver = true ∧
      (readIn (a, r)).toList ++ next.incoming = l.incoming ++ (toldIn (a, r)).toList := by
  cases h with
  | idle silent => exact ⟨listening, by simp [silent.read, silent.told]⟩
  | wrote offers => exact ⟨listening, by simp [only_offered offers]⟩
  | took asks => exact ⟨listening, by simp [only_received asks]⟩
  | ignored | said | closed | dropped => exact ⟨listening, by simp [readIn, toldIn]⟩
  | unheard served deaf => cases deaf.symm.trans listening
  | fetched there incoming => exact ⟨there, by simp [readIn, toldIn, incoming]⟩
  | parted silent ears =>
    rcases ears with ⟨rfl, same⟩ | ⟨rfl, deaf⟩
    · exact ⟨same ▸ listening, by simp [silent.read, silent.told]⟩
    · cases deaf.symm.trans listening

/-- A client that no longer reads has nothing to read. -/
theorem Effect.deafens (h : Effect l a next r) (empty : l.hasReceiver = false → l.incoming = [])
    (deaf : next.hasReceiver = false) : next.incoming = [] ∧ readIn (a, r) = none := by
  cases h with
  | idle silent => exact ⟨empty deaf, silent.read⟩
  | wrote offers => exact ⟨empty deaf, (only_offered offers).2.2.1⟩
  | took asks => exact ⟨empty deaf, (only_received asks _).2.2.1⟩
  | said served listening | closed served listening | fetched listening => cases listening.symm.trans deaf
  | ignored | unheard | dropped => exact ⟨empty deaf, rfl⟩
  | parted silent ears =>
    rcases ears with ⟨rfl, same⟩ | ⟨rfl, -⟩
    · exact ⟨empty (same ▸ deaf), silent.read⟩
    · exact ⟨rfl, silent.read⟩

/-- The server has had the front of what the client handed over, and the rest waits for it. What was
handed over behind its end are wishes to close. -/
def Account (past : List (Action × Response)) (l : MemoryLink) : Prop :=
  ∃ taken lost, offered past = taken ++ l.outgoing ++ lost ∧
    received past = taken.filterMap Outbound.text? ∧
      (∀ out ∈ lost, out = .close) ∧ (l.accepting = true → lost = [])

theorem Account.same (account : Account past l) (quiet : offeredIn (a, r) = none ∧ receivedIn (a, r) = none)
    (outgoing : next.outgoing = l.outgoing) (accepts : next.accepting = true → l.accepting = true) :
    Account (past ++ [(a, r)]) next := by
  obtain ⟨taken, lost, offers, receives, closes, all⟩ := account
  refine ⟨taken, lost, ?_, ?_, closes, fun h => all (accepts h)⟩
  · rw [offered_concat, quiet.1, outgoing, offers, Option.toList_none, List.append_nil]
  · rw [received_concat, quiet.2, receives, Option.toList_none, List.append_nil]

theorem Effect.accounts (h : Effect l a next r) (account : Account past l) (served : next.served = true) :
    Account (past ++ [(a, r)]) next := by
  cases h with
  | idle silent | parted silent => exact account.same ⟨silent.offered, silent.received⟩ rfl id
  | said | fetched => exact account.same ⟨rfl, rfl⟩ rfl id
  | closed | unheard => exact account.same ⟨rfl, rfl⟩ rfl fun h => by cases h
  | dropped => cases served
  | @wrote _ out offers owned willing =>
    obtain ⟨taken, lost, before, receives, -, all⟩ := account
    refine ⟨taken, [], ?_, ?_, List.forall_mem_nil _, fun _ => rfl⟩
    · simp [offered_concat, offers, before, all willing]
    · simp [received_concat, only_offered offers, receives]
  | ignored shut =>
    obtain ⟨taken, lost, offers, receives, closes, -⟩ := account
    refine ⟨taken, lost ++ [.close], ?_, ?_, ?_, fun willing => ?_⟩
    · simp [offered_concat, offeredIn, offers]
    · simp [received_concat, receivedIn, receives]
    · intro out ho
      rcases List.mem_append.mp ho with before | now
      · exact closes out before
      · exact List.mem_singleton.mp now
    · cases shut.symm.trans willing
  | @took _ out rest _ asks _ outgoing answer =>
    obtain ⟨taken, lost, offers, receives, closes, all⟩ := account
    refine ⟨taken ++ [out], lost, ?_, ?_, closes, all⟩
    · simp [offered_concat, only_received asks, offers, outgoing]
    · rw [received_concat, answer, receives, filterMap_concat]

theorem Account.received (account : Account past l) : received past <+: sent past := by
  obtain ⟨taken, lost, offers, receives, -, -⟩ := account
  rw [receives, sent, offers, List.append_assoc]
  exact (List.prefix_append _ _).filterMap _

theorem Effect.silences (h : Effect l a next r) (gone : next.served = false) :
    receivedIn (a, r) = none := by
  cases h with
  | idle silent | parted silent => exact silent.received
  | wrote offers => exact (only_offered offers).2.1
  | took _ served => cases served.symm.trans gone
  | _ => rfl

theorem Effect.serves (h : Effect l a next r) (served : next.served = true) : l.served = true := by
  cases h with
  | dropped => cases served
  | _ => exact served

theorem Effect.accepts (h : Effect l a next r) : next.accepting = (l.accepting && !leavesIn (a, r)) := by
  cases h with
  | idle silent | parted silent => simp [silent.leaves]
  | wrote offers => simp [only_offered offers]
  | took asks => simp [only_received asks]
  | ignored | said | fetched | closed | unheard | dropped => simp [leavesIn]

/-- What a run has come to: what each side was given and what it can still be given agree with what
the other side handed over. A server that was dropped has lost what waited for it. -/
structure Agrees (past : List (Action × Response)) (l : MemoryLink) : Prop where
  listens : l.hasReceiver = true → read past ++ l.incoming = .opened :: told past
  deaf : l.hasReceiver = false → l.incoming = []
  fetched : read past <+: .opened :: told past
  account : l.served = true → Account past l
  received : received past <+: sent past
  accepting : l.accepting = !left past

theorem Agrees.step (agrees : Agrees past l) (a : Action) :
    Agrees (past ++ [(a, (l.act a).2)]) (l.act a).1 := by
  have effect := effect_act l a
  generalize l.act a = done at effect
  obtain ⟨next, r⟩ := done
  have listens : next.hasReceiver = true →
      read (past ++ [(a, r)]) ++ next.incoming = .opened :: told (past ++ [(a, r)]) := by
    intro listening
    obtain ⟨there, same⟩ := effect.tells listening
    rw [read_concat, told_concat, List.append_assoc, same, ← List.append_assoc, agrees.listens there]
    rfl
  have account : next.served = true → Account (past ++ [(a, r)]) next := fun served =>
    effect.accounts (agrees.account (effect.serves served)) served
  refine ⟨listens, fun deaf => (effect.deafens agrees.deaf deaf).1, ?_, account, ?_, ?_⟩
  · cases listening : next.hasReceiver with
    | true => exact (listens listening) ▸ List.prefix_append _ _
    | false =>
      rw [read_concat, (effect.deafens agrees.deaf listening).2, told_concat, Option.toList_none,
        List.append_nil]
      exact agrees.fetched.trans (List.prefix_append (.opened :: told past) _)
  · cases served : next.served with
    | true => exact (account served).received
    | false =>
      rw [received_concat, effect.silences served, sent, offered_concat, List.filterMap_append,
        Option.toList_none, List.append_nil]
      exact agrees.received.trans (List.prefix_append _ _)
  · rw [left_concat, effect.accepts, agrees.accepting, Bool.not_or]

theorem agrees_run (actions : List Action) : Agrees (history actions) (after actions) := by
  have start : Agrees [] {} := by
    refine ⟨fun _ => rfl, fun deaf => (by cases deaf), List.nil_prefix, fun _ => ?_, List.prefix_rfl, rfl⟩
    exact ⟨[], [], rfl, rfl, List.forall_mem_nil _, fun _ => rfl⟩
  exact reached_induction start (fun past l a agrees => agrees.step a) actions

theorem history_append (actions more : List Action) :
    history (actions ++ more) = history actions ++ transcript act (after actions) more :=
  transcript_append _ _

theorem sent_append (past more : List (Action × Response)) : sent (past ++ more) = sent past ++ sent more := by
  rw [sent, offered, List.filterMap_append, List.filterMap_append]
  rfl

theorem received_append (past more : List (Action × Response)) :
    received (past ++ more) = received past ++ received more :=
  List.filterMap_append

theorem told_cases {e : Inbound} (h : toldIn (a, r) = some e) :
    (∃ t, a = .serverSend t ∧ e = .message t) ∨
      ∃ reason, a = .serverClose reason ∧ e = .closed ⟨none, reason⟩ := by
  unfold toldIn at h
  split at h
  next t w =>
    cases w
    exact .inl ⟨t, rfl, (Option.some.inj h).symm⟩
  next reason w =>
    cases w
    exact .inr ⟨reason, rfl, (Option.some.inj h).symm⟩
  next => cases h

theorem offered_cases {out : Outbound} (h : offeredIn (a, r) = some out) :
    (∃ t, a = .clientSend t ∧ out = .text t) ∨ a = .clientClose ∧ out = .close := by
  unfold offeredIn at h
  split at h
  next t w =>
    cases w
    exact .inl ⟨t, rfl, (Option.some.inj h).symm⟩
  next w =>
    cases w
    exact .inr ⟨rfl, (Option.some.inj h).symm⟩
  next => cases h

theorem opened_not_mem_told (past : List (Action × Response)) : .opened ∉ told past := by
  intro h
  obtain ⟨w, -, tells⟩ := List.mem_filterMap.mp h
  rcases told_cases tells with ⟨_, -, same⟩ | ⟨_, -, same⟩ <;> cases same

theorem pairwise_history {R : Action → Action → Prop} (h : actions.Pairwise R) :
    (history actions).Pairwise fun v w => R v.1 w.1 := by
  refine List.pairwise_map.mp ?_
  rwa [history, map_fst_transcript]

/-- What a server that ends tells has nothing behind an end. -/
theorem told_last (ends : ServerEnds actions) :
    (told (history actions)).Pairwise fun e _ => e.isClosed = false := by
  refine (pairwise_history ends).filterMap _ fun v w quiet e he f hf => ?_
  rcases told_cases he with ⟨t, -, rfl⟩ | ⟨reason, closes, -⟩
  · rfl
  · have silent : w.1.tells = false := quiet (by rw [closes]; rfl)
    rcases told_cases hf with ⟨_, tells, -⟩ | ⟨_, tells, -⟩ <;>
      · rw [tells] at silent
        cases silent

theorem offered_last (ends : ClientEnds actions) :
    (offered (history actions)).Pairwise fun x y => x = .close → y.text? = none := by
  refine (pairwise_history ends).filterMap _ fun v w quiet x hx y hy close => ?_
  rcases offered_cases hy with ⟨t, sends, -⟩ | ⟨-, rfl⟩
  · rcases offered_cases hx with ⟨_, -, text⟩ | ⟨closes, -⟩
    · cases text.symm.trans close
    · have silent := quiet closes
      rw [sends] at silent
      cases silent
  · rfl

theorem sent_of_clientEnds (ends : ClientEnds actions) :
    sent (history actions) = textsBeforeClose (offered (history actions)) :=
  texts_eq_textsBeforeClose (offered_last ends)

theorem mem_sent {t : String} (h : t ∈ sent past) : ∃ a r, (a, r) ∈ past ∧ a.sendsText = true := by
  obtain ⟨out, offers, ht⟩ := List.mem_filterMap.mp h
  obtain ⟨⟨a, r⟩, there, given⟩ := List.mem_filterMap.mp offers
  rcases offered_cases given with ⟨_, rfl, -⟩ | ⟨-, rfl⟩
  · exact ⟨_, r, there, rfl⟩
  · cases ht

/-- A client that ends has sent all that it will send once it has closed. -/
theorem sent_of_closed {more : List Action} (ends : ClientEnds (actions ++ more))
    (closed : .clientClose ∈ actions) : sent (transcript act (after actions) more) = [] := by
  refine List.eq_nil_iff_forall_not_mem.mpr fun t ht => ?_
  obtain ⟨a, r, there, sends⟩ := mem_sent ht
  have asked : a ∈ more := by
    rw [← map_fst_transcript act (after actions) more]
    exact List.mem_map_of_mem there
  rw [(List.pairwise_append.mp ends).2.2 _ closed _ asked rfl] at sends
  cases sends

/-- Without a sender, or for a server that takes nothing more, no text is handed over. -/
theorem Effect.mutes (h : Effect l a next r) (shut : (l.accepting && l.hasSender) = false) :
    (next.accepting && next.hasSender) = false ∧ sent [(a, r)] = [] := by
  have none_of (quiet : offeredIn (a, r) = none) : sent [(a, r)] = [] := by
    simp [sent, offered, quiet]
  cases h with
  | idle silent => exact ⟨shut, none_of silent.offered⟩
  | wrote _ owned willing =>
    rw [owned, willing] at shut
    cases shut
  | took asks => exact ⟨shut, none_of (only_received asks _).1⟩
  | ignored | said | fetched => exact ⟨shut, rfl⟩
  | closed | unheard | dropped => exact ⟨rfl, rfl⟩
  | parted silent _ voice =>
    refine ⟨?_, none_of silent.offered⟩
    refine Bool.eq_false_iff.mpr fun heard => ?_
    obtain ⟨willing, owned⟩ := Bool.and_eq_true_iff.mp heard
    rw [show l.accepting = true from willing, voice owned] at shut
    cases shut

theorem sent_of_shut (shut : (l.accepting && l.hasSender) = false) (more : List Action) :
    sent (transcript act l more) = [] := by
  induction more generalizing l with
  | nil => rfl
  | cons a rest ih =>
    obtain ⟨still, nothing⟩ := (effect_act l a).mutes shut
    rw [transcript, ← List.singleton_append, sent_append, nothing, ih still]
    rfl

theorem clientSend_answer (owned : l.hasSender = true) (t : String) :
    (l.act (.clientSend t)).2 = if l.accepting then .done else .refused := by
  simp only [act, if_pos owned]
  cases willing : l.accepting with
  | true => rw [clientWrite_open _ willing]; rfl
  | false => rw [clientWrite_shut _ willing]; rfl

theorem outgoing_of_textless (asks : a.receives = true) (served : l.served = true)
    (textless : receivedIn (a, (l.act a).2) = none) :
    l.outgoing = [] ∨ ∃ rest, l.outgoing = .close :: rest := by
  cases outgoing : l.outgoing with
  | nil => exact .inl rfl
  | cons out rest =>
    obtain ⟨r, taken, answer⟩ := act_of_waiting asks served outgoing
    rw [taken] at textless
    cases out with
    | text t => cases answer.symm.trans textless
    | close => exact .inr ⟨rest, rfl⟩

theorem Account.received_of_nothing (account : Account past l) (outgoing : l.outgoing = []) :
    MemoryLink.received past = sent past := by
  obtain ⟨taken, lost, offers, receives, closes, -⟩ := account
  have textless : lost.filterMap Outbound.text? = [] :=
    List.filterMap_eq_nil_iff.mpr fun out ho => by rw [closes out ho]; rfl
  rw [receives, sent, offers, outgoing, List.append_nil, List.filterMap_append, textless,
    List.append_nil]

theorem Account.textsBeforeClose_received (account : Account past l)
    (outgoing : l.outgoing = [] ∨ ∃ rest, l.outgoing = .close :: rest) :
    textsBeforeClose (offered past) <+: MemoryLink.received past := by
  rcases outgoing with nothing | ⟨rest, closing⟩
  · rw [account.received_of_nothing nothing]
    exact textsBeforeClose_isPrefix _
  · obtain ⟨taken, lost, offers, receives, -, -⟩ := account
    rw [receives, offers, closing, List.append_assoc, List.cons_append, textsBeforeClose_append_close]
    exact textsBeforeClose_isPrefix _

theorem Account.exists_close (account : Account past l) {rest : List Outbound}
    (closing : l.outgoing = .close :: rest) : ∃ r, (.clientClose, r) ∈ past := by
  obtain ⟨taken, lost, offers, -, -, -⟩ := account
  have mem : .close ∈ offered past := by
    rw [offers, closing]
    simp
  obtain ⟨⟨a, r⟩, there, given⟩ := List.mem_filterMap.mp mem
  rcases offered_cases given with ⟨_, -, text⟩ | ⟨rfl, -⟩
  · cases text
  · exact ⟨r, there⟩

theorem shut_of_ended (served : l.served = true) (outgoing : l.outgoing = [])
    (asks : a.receives = true) (ended : (l.act a).2 = .ended) : (l.accepting && l.hasSender) = false := by
  refine Bool.eq_false_iff.mpr fun open_ => ?_
  cases a with
  | serverReceive | serverTryReceive =>
    simp [act, if_pos served, serverTryReceive, serverReceive_of_nothing outgoing, open_] at ended
  | _ => cases asks

/-- What a link keeps to after any actions of its two sides. -/
structure Contract (actions : List Action) : Prop where
  heard : stream actions <+: .opened :: told (history actions)
  whole : (after actions).hasReceiver = true → stream actions = .opened :: told (history actions)
  observed : read (history actions) <+: stream actions
  /-- Nothing follows the end as long as the server leaves it at that. -/
  ending : ServerEnds actions → ∃ ending : Option CloseReason,
    told (history actions) = (pushed (history actions)).map .message ++ ending.toList.map .closed
  given : received (history actions) <+: sent (history actions)
  emptied : (after actions).served = true → (after actions).outgoing = [] →
    received (history actions) = sent (history actions)
  considered : ClientEnds actions → sent (history actions) = textsBeforeClose (offered (history actions))
  complete : ∀ a, a.receives = true → (after actions).served = true →
    receivedIn (a, ((after actions).act a).2) = none →
      textsBeforeClose (offered (history actions)) <+: received (history actions)
  /-- When the server hears of the close it has all texts, as long as the client leaves it at that. -/
  final : ∀ a more, a.receives = true → (after actions).served = true →
    receivedIn (a, ((after actions).act a).2) = none → ClientEnds (actions ++ a :: more) →
      (.clientClose ∈ actions ∨ ((after actions).act a).2 = .ended) →
        received (history (actions ++ a :: more)) = received (history actions)
  refused : ∀ t, (after actions).hasSender = true →
    ((after actions).act (.clientSend t)).2 = if left (history actions) then .refused else .done
  remains : left (history actions) = true → ∀ more, sent (transcript act (after actions) more) = []

theorem received_final {more : List Action} (asks : a.receives = true)
    (served : (after actions).served = true) (textless : receivedIn (a, ((after actions).act a).2) = none)
    (ends : ClientEnds (actions ++ a :: more))
    (told : .clientClose ∈ actions ∨ ((after actions).act a).2 = .ended) :
    received (history (actions ++ a :: more)) = received (history actions) := by
  have agrees := agrees_run actions
  have account := agrees.account served
  have outgoing := outgoing_of_textless asks served textless
  have nothing : sent (transcript act (after actions) (a :: more)) = [] := by
    rcases told with closed | ended
    · exact sent_of_closed ends closed
    · rcases outgoing with nothing | ⟨rest, closing⟩
      · exact sent_of_shut (shut_of_ended served nothing asks ended) _
      · obtain ⟨r, there⟩ := account.exists_close closing
        refine sent_of_closed ends ?_
        rw [← map_fst_transcript act {} actions]
        exact List.mem_map_of_mem there
  have all : sent (history (actions ++ a :: more)) <+: received (history actions) := by
    rw [history_append, sent_append, nothing, List.append_nil,
      sent_of_clientEnds (List.pairwise_append.mp ends).1]
    exact account.textsBeforeClose_received outgoing
  have grown : received (history actions) <+: received (history (actions ++ a :: more)) := by
    rw [history_append, received_append]
    exact List.prefix_append _ _
  have within := (agrees_run (actions ++ a :: more)).received.trans all
  exact (grown.eq_of_length_le within.length_le).symm

/-- Whatever the two sides do, the client is told what the server has sent, in order, and the server is
given the texts that the client has sent, in order, for as long as each of them is there to take it. An
end is the last that is told, and the last that is given, of a side that leaves it at its end. What the
client sends is refused from when the server has closed or was dropped. -/
theorem contract_kept (actions : List Action) : Contract actions := by
  have agrees := agrees_run actions
  refine ⟨?_, agrees.listens, List.prefix_append _ _, ?_, agrees.received, ?_, sent_of_clientEnds, ?_,
    ?_, ?_, ?_⟩
  · cases listening : (after actions).hasReceiver with
    | true => exact (agrees.listens listening) ▸ List.prefix_rfl
    | false =>
      rw [stream, agrees.deaf listening, List.append_nil]
      exact agrees.fetched
  · exact fun ends => exists_ending (opened_not_mem_told _) (told_last ends)
  · exact fun served nothing => (agrees.account served).received_of_nothing nothing
  · intro a asks served textless
    exact (agrees.account served).textsBeforeClose_received (outgoing_of_textless asks served textless)
  · exact fun a more asks served textless ends told => received_final asks served textless ends told
  · intro t owned
    rw [clientSend_answer owned, agrees.accepting]
    cases left (history actions) <;> rfl
  · intro gone more
    have shut : (after actions).accepting = false := by rw [agrees.accepting, gone]; rfl
    exact sent_of_shut (by rw [shut]; rfl) more

/-- Both sides close while texts are still to be read, and the client sends one that comes too late. -/
def parting : List Action :=
  [.serverSend "x", .clientSend "a", .split, .clientNext, .clientSend "b", .serverReceive,
    .serverClose "bye", .clientSend "c", .clientClose, .serverReceive]

theorem parting_kept : ServerEnds parting ∧ ClientEnds (parting ++ [.serverReceive, .serverTryReceive]) ∧
    (∃ ending : Option CloseReason, told (history parting) =
      (pushed (history parting)).map .message ++ ending.toList.map .closed) ∧
    stream parting = [.opened, .message "x", .closed ⟨none, "bye"⟩] ∧
      sent (history parting) = ["a", "b"] ∧ received (history parting) = ["a", "b"] ∧
        received (history (parting ++ [.serverReceive, .serverTryReceive])) = ["a", "b"] ∧
          ((after parting).act (.clientSend "d")).2 = .refused := by
  have kept := contract_kept parting
  have texts : sent (history parting) = ["a", "b"] := (kept.considered (by decide)).trans (by decide +kernel)
  have all : received (history parting) = ["a", "b"] :=
    (kept.emptied (by decide +kernel) (by decide +kernel)).trans texts
  refine ⟨by decide, by decide, kept.ending (by decide), ?_, texts, all, ?_, ?_⟩
  · exact (kept.whole (by decide +kernel)).trans (by decide +kernel)
  · exact (kept.final .serverReceive [.serverTryReceive] rfl (by decide +kernel) (by decide +kernel)
      (by decide) (.inl (by decide))).trans all
  · exact (kept.refused "d" (by decide +kernel)).trans (by decide +kernel)

/-- The server closes twice and sends a text behind that. -/
def relapse : List Action :=
  [.serverClose "one", .serverClose "two", .serverSend "after", .clientNext, .clientNext, .clientNext,
    .clientNext]

/-- The client sends a text behind its close. -/
def afterthought : List Action :=
  [.clientClose, .clientSend "late", .serverTryReceive, .serverTryReceive]

theorem closed_not_last :
    read (history relapse) =
      [.opened, .closed ⟨none, "one"⟩, .closed ⟨none, "two"⟩, .message "after"] ∧
        history afterthought = [(.clientClose, .done), (.clientSend "late", .done),
          (.serverTryReceive, .noText), (.serverTryReceive, .text "late")] := by
  decide +kernel

end MemoryLink

end Telemux

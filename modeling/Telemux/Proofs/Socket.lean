import Mathlib.Data.List.Induction
import Telemux.Link.Socket

namespace Telemux

/-- The texts in front of the first wish to close. -/
def textsBeforeClose : List Outbound → List String
  | .text t :: rest => t :: textsBeforeClose rest
  | _ => []

theorem isPrefix_textsBeforeClose {ts : List String} {outs : List Outbound}
    (h : ts.map .text <+: outs) : ts <+: textsBeforeClose outs := by
  induction ts generalizing outs with
  | nil => exact List.nil_prefix
  | cons t ts ih =>
    obtain ⟨rest, rfl⟩ := h
    exact List.cons_prefix_cons.mpr ⟨rfl, ih (List.prefix_append _ rest)⟩

/-- The events that are told for messages. -/
def messagesOf (ms : List SocketMessage) : List Inbound :=
  (ms.filterMap SocketMessage.text?).map .message

theorem messagesOf_append (ms ns : List SocketMessage) :
    messagesOf (ms ++ ns) = messagesOf ms ++ messagesOf ns := by
  rw [messagesOf, List.filterMap_append, List.map_append]
  rfl

theorem messagesOf_singleton (m : SocketMessage) : messagesOf [m] = m.text?.toList.map .message := by
  cases h : m.text? <;> simp [messagesOf, h]

namespace SocketStage

/-- Why the task has left its loop, if it has. -/
def reason? : SocketStage → Option CloseReason
  | .leaving reason | .refusing reason | .ended reason => some reason
  | _ => none

/-- Whether the task still takes what its owner sends. -/
def isOpen : SocketStage → Bool
  | .refusing _ | .ended _ => false
  | _ => true

/-- What the task has taken from the queue and not yet written. -/
def inHand : SocketStage → List Outbound
  | .writing t => [.text t]
  | _ => []

/-- What is told of the end. -/
def closing : SocketStage → List Inbound
  | .ended reason => [.closed reason]
  | _ => []

end SocketStage

namespace SocketLink

/-- The steps that a task still has to take when it has left its loop. -/
def due : SocketStage → List Step
  | .leaving _ => [.refuse, .announce]
  | .refusing _ => [.announce]
  | _ => []

/-- What a step puts on the queue. A send may be refused. -/
def sends (l : SocketLink) : Step → List Outbound
  | .send out => if l.accepts then [out] else []
  | _ => []

def arrives : Step → List SocketMessage
  | .arrive m => [m]
  | _ => []

/-- What a step takes of what arrived. -/
def hears (l : SocketLink) : Step → List SocketMessage
  | .takeArrived => if l.stage = .waiting then l.arrived.head?.toList else []
  | _ => []

/-- What the owner reads in a step. -/
def reads (l : SocketLink) : Step → List Inbound
  | .next => l.events.head?.toList
  | _ => []

/-- What the steps of a run give one after the other, each from the state that it meets. -/
def log {α : Type} (f : SocketLink → Step → List α) (l : SocketLink) : List Step → List α
  | [] => []
  | s :: rest => f l s ++ log f (l.step s) rest

/-- Everything that the owner has sent and that was not refused. -/
def sent (steps : List Step) : List Outbound :=
  log sends {} steps

def heard (steps : List Step) : List SocketMessage :=
  log hears {} steps

def read (steps : List Step) : List Inbound :=
  log reads {} steps

def arrivals (steps : List Step) : List SocketMessage :=
  steps.flatMap arrives

/-- All events that the owner of a link is given: those it has read and those it can still read. -/
def stream (steps : List Step) : List Inbound :=
  read steps ++ (run {} steps).events

variable {α : Type} {f : SocketLink → Step → List α} {l : SocketLink} {steps : List Step} {s : Step}
  {reason : CloseReason}

theorem run_append (l : SocketLink) (before after : List Step) :
    l.run (before ++ after) = (l.run before).run after :=
  List.foldl_append

theorem log_append (f : SocketLink → Step → List α) (l : SocketLink) (before after : List Step) :
    log f l (before ++ after) = log f l before ++ log f (l.run before) after := by
  induction before generalizing l with
  | nil => rfl
  | cons s before ih =>
    rw [List.cons_append, log, log, ih, List.append_assoc]
    rfl

theorem log_concat (f : SocketLink → Step → List α) (l : SocketLink) (before : List Step) (s : Step) :
    log f l (before ++ [s]) = log f l before ++ f (l.run before) s := by
  rw [log_append, log, log, List.append_nil]

theorem run_concat (l : SocketLink) (before : List Step) (s : Step) :
    l.run (before ++ [s]) = (l.run before).step s := by
  rw [run_append]
  rfl

/-- What the texts and wishes become that the owner has sent: they are written, in hand or queued. -/
def account (l : SocketLink) : List Outbound :=
  l.written.map .text ++ l.stage.inHand ++ l.queued

/-- The ways out of the loop of the task, with what is told of each. -/
inductive Exit (l : SocketLink) : Step → CloseReason → Prop
  | writeFailed {t reason : String} (stage : l.stage = .writing t) :
    Exit l (.write (some reason)) ⟨none, reason⟩
  | closed {rest : List Outbound} (stage : l.stage = .waiting) (queued : l.queued = .close :: rest) :
    Exit l .takeQueued ⟨none, "closed locally"⟩
  | abandoned (stage : l.stage = .waiting) (queued : l.queued = []) (gone : l.abandoned = true) :
    Exit l .takeQueued ⟨none, "closed locally"⟩
  | closeFrame {code : Nat} {reason : String} {rest : List SocketMessage} (stage : l.stage = .waiting)
    (arrived : l.arrived = .closeFrame (some (code, reason)) :: rest) :
    Exit l .takeArrived ⟨some code, reason⟩
  | bareClose {rest : List SocketMessage} (stage : l.stage = .waiting)
    (arrived : l.arrived = .closeFrame none :: rest) : Exit l .takeArrived ⟨none, "closed by server"⟩
  | readFailed {reason : String} {rest : List SocketMessage} (stage : l.stage = .waiting)
    (arrived : l.arrived = .failure reason :: rest) : Exit l .takeArrived ⟨none, reason⟩
  | finished {rest : List SocketMessage} (stage : l.stage = .waiting)
    (arrived : l.arrived = .finished :: rest) : Exit l .takeArrived ⟨none, "stream ended"⟩

/-- What a step of a run comes to. -/
inductive Effect (l : SocketLink) : Step → SocketLink → Prop
  | sent {out : Outbound} (willing : l.accepts = true) :
    Effect l (.send out) { l with queued := l.queued ++ [out] }
  | refused {out : Outbound} (shut : l.accepts = false) : Effect l (.send out) l
  | abandoned : Effect l .abandon { l with abandoned := true }
  | read : Effect l .next { l with events := l.events.tail }
  | arrived {m : SocketMessage} : Effect l (.arrive m) { l with arrived := l.arrived ++ [m] }
  | idle {s : Step} (silent : l.sends s = [] ∧ arrives s = [] ∧ l.hears s = [] ∧ l.reads s = []) :
    Effect l s l
  | took {t : String} {rest : List Outbound} (stage : l.stage = .waiting)
    (queued : l.queued = .text t :: rest) : Effect l .takeQueued { l with queued := rest, stage := .writing t }
  | wrote {t : String} (stage : l.stage = .writing t) :
    Effect l (.write none) { l with written := l.written ++ [t], stage := .waiting }
  | heard {m : SocketMessage} {rest : List SocketMessage} (stage : l.stage = .waiting)
    (arrived : l.arrived = m :: rest) :
    Effect l .takeArrived { l with arrived := rest, events := l.events ++ messagesOf [m] }
  | left {s : Step} {reason : CloseReason} {queued : List Outbound} {arrived : List SocketMessage}
    (exit : Exit l s reason) (rest : l.hears s ++ arrived = l.arrived) :
    Effect l s { l with queued, arrived, stage := .leaving reason }
  | shut {reason : CloseReason} (stage : l.stage = .leaving reason) :
    Effect l .refuse { l with accepting := false, stage := .refusing reason }
  | told {reason : CloseReason} (stage : l.stage = .refusing reason) :
    Effect l .announce
      { l with queued := [], events := l.events ++ [.closed reason], stage := .ended reason }

theorem exit_of_ending {m : SocketMessage} {rest : List SocketMessage} (stage : l.stage = .waiting)
    (arrived : l.arrived = m :: rest) (h : m.ending? = some reason) : Exit l .takeArrived reason := by
  unfold SocketMessage.ending? at h
  split at h
  case h_1 => cases h; exact .closeFrame stage arrived
  case h_2 => cases h; exact .bareClose stage arrived
  case h_3 => cases h; exact .readFailed stage arrived
  case h_4 => cases h; exact .finished stage arrived
  case h_5 => cases h

theorem effect_takeQueued (l : SocketLink) : Effect l .takeQueued l.takeQueued := by
  fun_cases takeQueued l
  case case1 t rest queued stage => exact .took stage queued
  case case2 rest queued stage => exact .left (.closed stage queued) rfl
  case case3 queued stage gone => exact .left (.abandoned stage queued gone) rfl
  all_goals exact .idle ⟨rfl, rfl, rfl, rfl⟩

theorem effect_write (l : SocketLink) (failure : Option String) :
    Effect l (.write failure) (l.write failure) := by
  fun_cases write l failure
  case case1 t stage => exact .wrote stage
  case case2 t reason stage => exact .left (.writeFailed stage) rfl
  case case3 => exact .idle ⟨rfl, rfl, rfl, rfl⟩

theorem effect_takeArrived (l : SocketLink) : Effect l .takeArrived l.takeArrived := by
  fun_cases takeArrived l
  case case1 m rest arrived stage reason h =>
    exact .left (exit_of_ending stage arrived h) (by simp [hears, stage, arrived])
  case case2 m rest arrived stage h =>
    rw [← messagesOf_singleton]
    exact .heard stage arrived
  case case3 none =>
    refine .idle ⟨rfl, rfl, ?_, rfl⟩
    cases h : l.arrived with
    | nil => simp [hears, h]
    | cons m rest =>
      have busy : l.stage ≠ .waiting := fun waits => none m rest waits h
      simp [hears, busy]

theorem effect_step (l : SocketLink) (s : Step) : Effect l s (l.step s) := by
  cases s with
  | send out =>
    cases h : l.accepts with
    | true =>
      have sent : l.step (.send out) = { l with queued := l.queued ++ [out] } := if_pos h
      exact sent ▸ .sent h
    | false =>
      have same : l.step (.send out) = l := if_neg (Bool.eq_false_iff.mp h)
      exact same.symm ▸ .refused h
  | abandon => exact .abandoned
  | next => exact .read
  | arrive m => exact .arrived
  | takeQueued => exact effect_takeQueued l
  | write failure => exact effect_write l failure
  | takeArrived => exact effect_takeArrived l
  | refuse =>
    change Effect l .refuse l.refuse
    fun_cases refuse l
    case case1 reason stage => exact .shut stage
    case case2 => exact .idle ⟨rfl, rfl, rfl, rfl⟩
  | announce =>
    change Effect l .announce l.announce
    fun_cases announce l
    case case1 reason stage => exact .told stage
    case case2 => exact .idle ⟨rfl, rfl, rfl, rfl⟩

variable {after : SocketLink}

theorem Exit.staged (h : Exit l s reason) : l.stage.reason? = none ∧ l.stage.isOpen = true ∧
    l.stage.closing = [] ∧ l.sends s = [] ∧ arrives s = [] ∧ l.reads s = [] := by
  cases h <;> simp [*, SocketStage.reason?, SocketStage.isOpen, SocketStage.closing, sends, arrives, reads]

theorem Exit.mute (h : Exit l s reason) : messagesOf (l.hears s) = [] := by
  cases h <;> simp [*, hears, messagesOf, SocketMessage.text?]

theorem Effect.arrivals (h : Effect l s after) : l.hears s ++ after.arrived = l.arrived ++ arrives s := by
  cases h with
  | heard stage arrived => simp [hears, arrives, stage, arrived]
  | left exit rest => simp [rest, exit.staged]
  | idle silent => simp [silent]
  | _ => simp [hears, arrives]

/-- A step tells the events of what it hears, and the end if it is the last of the task. -/
theorem Effect.events (h : Effect l s after) : ∃ new, l.reads s ++ after.events = l.events ++ new ∧
    l.stage.closing ++ new = messagesOf (l.hears s) ++ after.stage.closing := by
  cases h with
  | read =>
    refine ⟨[], ?_, by simp [hears, messagesOf]⟩
    cases h : l.events <;> simp [reads, h]
  | heard stage arrived =>
    exact ⟨_, rfl, by simp [hears, stage, arrived, SocketStage.closing]⟩
  | left exit =>
    obtain ⟨-, -, closing, -, -, reads⟩ := exit.staged
    refine ⟨[], by simp [reads], ?_⟩
    rw [closing, exit.mute]
    rfl
  | told stage => exact ⟨_, rfl, by simp [hears, messagesOf, stage, SocketStage.closing]⟩
  | idle silent => exact ⟨[], by simp [silent], by simp [silent, messagesOf]⟩
  | took stage | wrote stage | shut stage =>
    exact ⟨[], by simp [reads], by simp [hears, messagesOf, stage, SocketStage.closing]⟩
  | _ => exact ⟨[], by simp [reads], by simp [hears, messagesOf]⟩

/-- As long as the task is in its loop, nothing that was sent is lost. -/
theorem Effect.accounts (h : Effect l s after) (stays : after.stage.reason? = none) :
    l.stage.reason? = none ∧ after.account = l.account ++ l.sends s := by
  cases h with
  | left | shut | told => cases stays
  | took stage queued => simp [account, sends, stage, queued, SocketStage.inHand, SocketStage.reason?]
  | wrote stage => simp [account, sends, stage, SocketStage.inHand, SocketStage.reason?]
  | sent willing => exact ⟨stays, by simp [account, sends, willing]⟩
  | refused shut => exact ⟨stays, by simp [sends, shut]⟩
  | idle silent => exact ⟨stays, by simp [silent]⟩
  | _ => exact ⟨stays, by simp [account, sends]⟩

theorem Effect.written (h : Effect l s after) (left : after.stage.reason? ≠ none) :
    after.written = l.written := by
  cases h with
  | wrote => exact absurd rfl left
  | _ => rfl

theorem Effect.accepting (h : Effect l s after) (agrees : l.accepting = l.stage.isOpen) :
    after.accepting = after.stage.isOpen := by
  cases h with
  | took stage | wrote stage => simpa [stage, SocketStage.isOpen] using agrees
  | left exit => exact agrees.trans exit.staged.2.1
  | shut | told stage => simp_all [SocketStage.isOpen]
  | _ => exact agrees

theorem Effect.stays (h : Effect l s after) (left : l.stage.reason? = some reason) :
    after.stage.reason? = some reason := by
  cases h with
  | took stage | wrote stage => simp [stage, SocketStage.reason?] at left
  | left exit => simp [exit.staged] at left
  | shut stage | told stage => simpa [stage, SocketStage.reason?] using left
  | _ => exact left

/-- What a run has come to: the link agrees with the logs of its steps. -/
structure Agrees (steps : List Step) (l : SocketLink) : Prop where
  arrivals : heard steps ++ l.arrived = arrivals steps
  told : read steps ++ l.events = .opened :: messagesOf (heard steps) ++ l.stage.closing
  account : l.stage.reason? = none → sent steps = l.account
  written : l.written.map .text <+: sent steps
  accepting : l.accepting = l.stage.isOpen

theorem Agrees.step (h : Agrees steps (run {} steps)) (s : Step) :
    Agrees (steps ++ [s]) (run {} (steps ++ [s])) := by
  have effect := effect_step (run {} steps) s
  rw [run_concat]
  generalize (run {} steps).step s = after at effect
  have sends : sent (steps ++ [s]) = sent steps ++ (run {} steps).sends s := log_concat _ _ _ _
  have hears : heard (steps ++ [s]) = heard steps ++ (run {} steps).hears s := log_concat _ _ _ _
  have reads : read (steps ++ [s]) = read steps ++ (run {} steps).reads s := log_concat _ _ _ _
  have account : after.stage.reason? = none → sent (steps ++ [s]) = after.account := by
    intro stays
    obtain ⟨before, grown⟩ := effect.accounts stays
    rw [sends, h.account before, grown]
  refine ⟨?_, ?_, account, ?_, effect.accepting h.accepting⟩
  · rw [hears, List.append_assoc, effect.arrivals, ← List.append_assoc, h.arrivals]
    simp [SocketLink.arrivals]
  · obtain ⟨new, grown, told⟩ := effect.events
    rw [reads, hears, messagesOf_append, List.append_assoc, grown, ← List.append_assoc, h.told]
    simp [told]
  · by_cases stays : after.stage.reason? = none
    · rw [account stays, SocketLink.account, List.append_assoc]
      exact List.prefix_append _ _
    · rw [effect.written stays, sends]
      exact h.written.trans (List.prefix_append _ _)

theorem agrees_run (steps : List Step) : Agrees steps (run {} steps) := by
  induction steps using List.reverseRecOn with
  | nil => exact ⟨rfl, rfl, fun _ => rfl, List.nil_prefix, rfl⟩
  | append_singleton steps s ih => exact ih.step s

/-- In its loop the task leaves it in one of seven ways only. -/
theorem exit_iff (inside : l.stage.reason? = none) :
    (l.step s).stage.reason? = some reason ↔ Exit l s reason := by
  constructor
  · intro outside
    have effect := effect_step l s
    generalize l.step s = after at effect outside
    cases effect with
    | left exit =>
      cases outside
      exact exit
    | took | wrote => cases outside
    | shut stage | told stage =>
      rw [stage] at inside
      cases inside
    | _ =>
      have both := inside.symm.trans outside
      cases both
  · intro exit
    cases exit <;> simp [step, takeQueued, write, takeArrived, SocketMessage.ending?,
      SocketStage.reason?, CloseReason.here, *]

theorem due_sublist (left : l.stage.reason? = some reason) (s : Step) :
    (due (l.step s).stage).Sublist (due l.stage) := by
  have effect := effect_step l s
  generalize l.step s = after at effect
  cases effect with
  | left exit =>
    rw [exit.staged.1] at left
    cases left
  | took stage | wrote stage =>
    rw [stage] at left
    cases left
  | shut stage | told stage =>
    rw [stage]
    exact List.sublist_cons_self _ _
  | _ => exact List.Sublist.refl _

theorem due_of_head {rest : List Step} (next : due l.stage = s :: rest) :
    due (l.step s).stage = rest := by
  cases stage : l.stage with
  | leaving reason =>
    rw [stage] at next
    cases next
    simp [step, refuse, stage, due]
  | refusing reason =>
    rw [stage] at next
    cases next
    simp [step, announce, stage, due]
  | waiting | writing t | ended reason =>
    rw [stage] at next
    cases next

/-- The task comes to its end as soon as it has had its turns, whatever else happens between them. -/
theorem over_of_due (left : l.stage.reason? = some reason) {more : List Step}
    (turns : (due l.stage).Sublist more) : (l.run more).stage = .ended reason := by
  induction more generalizing l with
  | nil =>
    have none := List.sublist_nil.mp turns
    show l.stage = .ended reason
    cases stage : l.stage with
    | ended _ =>
      rw [stage] at left
      cases left
      rfl
    | leaving _ | refusing _ =>
      rw [stage] at none
      cases none
    | waiting | writing _ =>
      rw [stage] at left
      cases left
  | cons s rest ih =>
    have still := (effect_step l s).stays left
    cases hd : due l.stage with
    | nil =>
      have done := due_sublist left s
      rw [hd] at done
      exact ih still (List.sublist_nil.mp done ▸ List.nil_sublist rest)
    | cons turn others =>
      rw [hd] at turns
      cases turns with
      | cons _ later => exact ih still ((due_sublist left s).trans (hd ▸ later))
      | cons_cons _ now => exact ih still (due_of_head hd ▸ now)

theorem hears_of_left (left : l.stage.reason? = some reason) (steps : List Step) :
    log hears l steps = [] := by
  induction steps generalizing l with
  | nil => rfl
  | cons s rest ih =>
    have busy : l.stage ≠ .waiting := by
      intro waits
      rw [waits] at left
      cases left
    have nothing : l.hears s = [] := by cases s <;> simp [hears, busy]
    rw [log, nothing, ih ((effect_step l s).stays left)]
    rfl

theorem Effect.refuses (h : Effect l s after) (shut : l.accepting = false) : after.accepting = false := by
  cases h with
  | shut => rfl
  | _ => exact shut

/-- A link that refuses what is sent goes on to do so. -/
theorem sends_of_refusing (shut : l.accepting = false) (steps : List Step) : log sends l steps = [] := by
  induction steps generalizing l with
  | nil => rfl
  | cons s rest ih =>
    have nothing : l.sends s = [] := by cases s <;> simp [sends, accepts, shut]
    rw [log, nothing, ih ((effect_step l s).refuses shut)]
    rfl

/-- A link is at its end only behind a stage at which it refuses. -/
theorem isOpen_of_over (h : (l.step s).stage = .ended reason) : l.stage.isOpen = false := by
  have effect := effect_step l s
  generalize l.step s = after at effect h
  cases effect with
  | told stage => rw [stage]; rfl
  | took | wrote | left | shut => cases h
  | _ => rw [h]; rfl

theorem over_of_closed (h : .closed reason ∈ stream steps) : (run {} steps).stage = .ended reason := by
  have told : stream steps = .opened :: messagesOf (heard steps) ++ (run {} steps).stage.closing :=
    (agrees_run steps).told
  rw [told] at h
  rcases List.mem_append.mp h with open_or_message | closing
  · simp [messagesOf] at open_or_message
  · cases stage : (run {} steps).stage with
    | ended _ =>
      rw [stage] at closing
      cases List.mem_singleton.mp closing
      rfl
    | _ =>
      rw [stage] at closing
      cases closing

/-- What a link keeps to after any steps. -/
structure Contract (steps : List Step) : Prop where
  told : stream steps = .opened :: messagesOf (heard steps) ++ (run {} steps).stage.closing
  observed : read steps <+: stream steps
  arrived : heard steps ++ (run {} steps).arrived = arrivals steps
  exits : ∀ s reason, (run {} steps).stage.reason? = none →
    ((run {} (steps ++ [s])).stage.reason? = some reason ↔ Exit (run {} steps) s reason)
  ends : ∀ reason more, (run {} steps).stage.reason? = some reason →
    (due (run {} steps).stage).Sublist more →
      stream (steps ++ more) = .opened :: messagesOf (heard steps) ++ [.closed reason]
  written : (run {} steps).written <+: textsBeforeClose (sent steps)
  kept : (run {} steps).stage.reason? = none → sent steps = (run {} steps).account
  refused : ∀ s after reason, .closed reason ∈ stream (steps ++ [s]) →
    log sends (run {} steps) (s :: after) = []
  closed : ∀ after reason, .closed reason ∈ read steps → log sends (run {} steps) after = []

/-- However its steps are interleaved, a link tells that it is open, then each message that it hears and
then its end, and nothing after it; it writes what was sent before the first wish to close, as far as it
comes; and it has refused all sends from before its end is told. -/
theorem contract_run (steps : List Step) : Contract steps := by
  have agrees := agrees_run steps
  have observed : read steps <+: stream steps := List.prefix_append _ _
  refine ⟨agrees.told, observed, agrees.arrivals, ?_, ?_, isPrefix_textsBeforeClose agrees.written,
    agrees.account, ?_, ?_⟩
  · intro s reason inside
    rw [run_concat]
    exact exit_iff inside
  · intro reason more left turns
    have told : stream (steps ++ more) = _ := (agrees_run (steps ++ more)).told
    have same : heard (steps ++ more) = heard steps := by
      rw [heard, log_append, hears_of_left left, List.append_nil]
      rfl
    rw [told, same, run_append, over_of_due left turns]
    rfl
  · intro s after reason closed
    have stopped := over_of_closed closed
    rw [run_concat] at stopped
    exact sends_of_refusing (agrees.accepting.trans (isOpen_of_over stopped)) (s :: after)
  · intro after reason closed
    have stopped := over_of_closed (observed.subset closed)
    have shut : (run {} steps).accepting = false := by rw [agrees.accepting, stopped]; rfl
    exact sends_of_refusing shut after

/-- The owner closes while a text arrives and another is still to be read; its last text is refused. -/
def parting : List Step :=
  [.send (.text "a"), .send .close, .arrive (.text "x"), .arrive (.binary [0xC3, 0x28]), .takeQueued,
    .send (.text "b"), .arrive .finished, .write none, .takeArrived, .takeArrived, .takeQueued, .refuse,
    .send (.text "c"), .announce, .next]

example : (run {} parting).written = ["a"] ∧ sent parting = [.text "a", .close, .text "b"] ∧
    stream parting = [.opened, .message "x", .closed .here] := by
  decide +kernel

end SocketLink

end Telemux

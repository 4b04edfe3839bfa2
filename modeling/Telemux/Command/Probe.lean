import Telemux.Command.Happening
import Telemux.Command.Plan

namespace Telemux

namespace InfoRun

def timedOut (timeout : Nat) : Failure :=
  ⟨Failure.timeoutCode, "no connection info within " ++ durationText timeout⟩

def await (timeout : Nat) (h : Hub) (generation : Nat) : List Happening → Except Failure ConnectionInfo
  | [] => .error (timedOut timeout)
  | .inbound word :: rest =>
    let h := h.hear generation word
    match h.client.waitConnected with
    | some (.ok ()) =>
      match h.client.info with
      | some info => .ok info
      | none => .error ⟨Failure.generalCode, "server sent no connection info"⟩
    | some (.error e) => .error (.ofClient "connect failed" e)
    | none => await timeout h generation rest
  | _ :: rest => await timeout h generation rest

def probe (plan : InfoPlan) (outside : Outside) : Except Failure ConnectionInfo :=
  match outside.dialed with
  | .error reason => .error (connectFailure plan.endpoint reason)
  | .ok () =>
    match (Hub.fresh {}).attach none with
    | (_, .error e) => .error (.ofClient "connect failed" e)
    | (h, .ok generation) => await plan.timeout h generation outside.happenings

end InfoRun

end Telemux

import Telemux.Number.Decimal

namespace Telemux

/-- Why a link ended. Only the other side gives a code. -/
structure CloseReason where
  code : Option Nat
  reason : String
  deriving DecidableEq

namespace CloseReason

def here : CloseReason :=
  ⟨none, "closed locally"⟩

/-- The events of the link stopped without a word about its end. -/
def unannounced : CloseReason :=
  ⟨none, "transport task ended"⟩

def text (r : CloseReason) : String :=
  match r.code with
  | some code => r.reason ++ " (code " ++ String.ofList (decimal code) ++ ")"
  | none => r.reason

end CloseReason

inductive Inbound where
  | opened
  | message (text : String)
  | closed (reason : CloseReason)
  deriving DecidableEq

def Inbound.isClosed : Inbound → Bool
  | .closed _ => true
  | _ => false

inductive Outbound where
  | text (text : String)
  | close
  deriving DecidableEq

def Outbound.text? : Outbound → Option String
  | .text line => some line
  | .close => none

end Telemux

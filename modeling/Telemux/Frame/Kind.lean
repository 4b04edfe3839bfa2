namespace Telemux

/-- What a frame is: a request of the client, one of its two answers, or data pushed unasked. -/
inductive MessageKind where
  | request
  | reply
  | exception
  | data
  deriving DecidableEq

namespace MessageKind

def code : MessageKind → Nat
  | .request => 1
  | .reply => 2
  | .exception => 3
  | .data => 4

def ofCode? : Nat → Option MessageKind
  | 1 => some .request
  | 2 => some .reply
  | 3 => some .exception
  | 4 => some .data
  | _ => none

def name : MessageKind → String
  | .request => "REQUEST"
  | .reply => "REPLY"
  | .exception => "EXCEPTION"
  | .data => "DATA"

def isTerminal : MessageKind → Bool
  | .reply | .exception => true
  | .request | .data => false

theorem ofCode?_code (k : MessageKind) : ofCode? k.code = some k := by
  cases k <;> rfl

theorem code_of_ofCode? {n : Nat} {k : MessageKind} (h : ofCode? n = some k) : k.code = n := by
  unfold ofCode? at h
  split at h <;> cases h <;> rfl

end MessageKind

end Telemux

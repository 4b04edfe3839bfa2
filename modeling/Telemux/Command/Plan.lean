import Telemux.Command.Line

namespace Telemux

structure SubscribePlan where
  topic : Topic
  endpoint : Endpoint
  interval : Nat

/-- The topic is judged first, then the address, and then the interval. -/
def SubscribeArguments.plan (a : SubscribeArguments) : Except Failure SubscribePlan := do
  let topic ← a.choice.topic
  let endpoint ← resolveEndpoint a.url a.choice.site
  let interval ← parseDuration a.reconnectInterval
  .ok { topic, endpoint, interval }

structure InfoPlan where
  endpoint : Endpoint
  timeout : Nat

/-- The time limit is judged before the address. -/
def InfoArguments.plan (a : InfoArguments) : Except Failure InfoPlan := do
  let timeout ← parseDuration a.timeout
  let endpoint ← resolveEndpoint a.url a.site
  .ok { endpoint, timeout }

/-- Three decimal places without the zeros at their end. -/
def thousandths (n : Nat) : List Char :=
  let digits := (decimal (1000 + n)).drop 1
  (digits.reverse.dropWhile (· = '0')).reverse

/-- A time limit in messages: in milliseconds below a second, and else in seconds. -/
def durationText (ms : Nat) : String :=
  if ms < 1000 then String.ofList (decimal ms) ++ "ms"
  else if ms % 1000 = 0 then String.ofList (decimal (ms / 1000)) ++ "s"
  else String.ofList (decimal (ms / 1000) ++ '.' :: thousandths (ms % 1000)) ++ "s"

end Telemux

import Telemux.Command.Run

namespace Telemux

def readEnvironment : IO Environment := do
  return { url := ← IO.getEnv "WSMUX_URL", site := ← IO.getEnv "WSMUX_INSTANCE" }

def deliver (report : Report) : IO UInt32 := do
  IO.print report.output
  match report.result with
  | .ok code => return UInt32.ofNat code
  | .error failure =>
    IO.eprintln ("error: " ++ failure.message)
    return UInt32.ofNat failure.code

def explain (e : UsageError) : IO UInt32 := do
  if e.code = 0 then IO.print e.text else IO.eprint e.text
  return UInt32.ofNat e.code

/-- The program opens no sockets, so every attempt to connect fails. -/
def runProgram (args : List String) : IO UInt32 := do
  match CommandLine.parse (← readEnvironment) args with
  | .error e => explain e
  | .ok line => deliver (line.run fun _ => Outside.unreachable)

end Telemux

def main (args : List String) : IO UInt32 :=
  Telemux.runProgram args

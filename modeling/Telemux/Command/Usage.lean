namespace Telemux

/-- Why a command line is not run: it asks for a text about the program, or it breaks a rule. -/
inductive UsageError where
  | displayHelp
  | displayVersion
  | nothingAsked
  | unknownArgument
  | unknownCommand
  | missingCommand
  | missingArgument
  | repeatedArgument
  | valueNotAllowed
  | invalidValue
  | unreadableValue
  deriving DecidableEq

/-- Only a line that asks for a text ends well. -/
def UsageError.code : UsageError → Nat
  | .displayHelp | .displayVersion => 0
  | _ => 2

inductive OptionKind where
  | flag
  | single
  | repeatable
  | help
  | version
  deriving DecidableEq

/-- An option by its long name, and by its letter if it has one. A value has to pass the check. -/
structure OptionSpec where
  name : String
  kind : OptionKind
  letter : Option Char := none
  check : String → Except UsageError Unit := fun _ => .ok ()

namespace OptionSpec

def takesValue (o : OptionSpec) : Bool :=
  o.kind = .single || o.kind = .repeatable

end OptionSpec

/-- What a command accepts: options, commands of its own, and how many plain arguments. -/
structure CommandSpec where
  options : List OptionSpec
  commands : List String
  arguments : Nat

/-- What has been met so far. The value of an option is only checked when the next argument has shown
that it is complete. -/
structure Scan where
  options : List (String × String) := []
  arguments : List String := []
  pending : Option (OptionSpec × Option String) := none
  onlyArguments : Bool := false

/-- A scan that stopped at the name of a command, with the rest of the line. -/
structure ScanEnd where
  scan : Scan
  command : Option (String × List String)

namespace Scan

def has (s : Scan) (name : String) : Bool :=
  s.options.any (·.1 = name)

def values (s : Scan) (name : String) : List String :=
  s.options.filterMap fun o => if o.1 = name then some o.2 else none

def value? (s : Scan) (name : String) : Option String :=
  (s.values name).head?

/-- Takes an option; most options may be given only once. -/
def take (s : Scan) (o : OptionSpec) (value : String) : Except UsageError Scan :=
  if o.kind ≠ .repeatable ∧ s.has o.name then .error .repeatedArgument
  else do
    o.check value
    .ok { s with options := s.options ++ [(o.name, value)] }

/-- Takes the option that waits for its value or has just got it. -/
def settle (s : Scan) : Except UsageError Scan :=
  match s.pending with
  | none => .ok s
  | some (_, none) => .error .invalidValue
  | some (o, some value) => { s with pending := none }.take o value

def awaitsValue (s : Scan) : Bool :=
  match s.pending with
  | some (_, none) => true
  | _ => false

def takeFlag (s : Scan) (o : OptionSpec) : Except UsageError Scan := do
  let s ← s.settle
  match o.kind with
  | .help => .error .displayHelp
  | .version => .error .displayVersion
  | _ => s.take o "true"

def takeLong (spec : CommandSpec) (s : Scan) (name : String) (value : Option String) :
    Except UsageError Scan :=
  match spec.options.find? (·.name = name) with
  | none => .error .unknownArgument
  | some o =>
    match o.takesValue, value with
    | true, some value => do (← s.settle).take o value
    | true, none => do .ok { ← s.settle with pending := some (o, none) }
    | false, some _ => .error .valueNotAllowed
    | false, none => s.takeFlag o

def takeLetters (spec : CommandSpec) (s : Scan) : List Char → Except UsageError Scan
  | [] => .ok s
  | c :: cs =>
    match spec.options.find? (·.letter = some c) with
    | none => .error .unknownArgument
    | some o => do (← s.takeFlag o).takeLetters spec cs

def takeArgument (spec : CommandSpec) (s : Scan) (text : String) : Except UsageError Scan :=
  if s.arguments.length < spec.arguments then do
    let s ← s.settle
    .ok { s with arguments := s.arguments ++ [text] }
  else if spec.commands.isEmpty ∨ (s.onlyArguments ∧ text ∈ spec.commands) then
    .error .unknownArgument
  else .error .unknownCommand

inductive Shape where
  | plain
  | separator
  | long (name : String) (value : Option String)
  | letters (cs : List Char)

def shapeOf (text : String) : Shape :=
  match text.toList with
  | ['-', '-'] => .separator
  | '-' :: '-' :: rest =>
    match rest.span (· != '=') with
    | (name, []) => .long (String.ofList name) none
    | (name, _ :: value) => .long (String.ofList name) (some (String.ofList value))
  | '-' :: c :: rest => .letters (c :: rest)
  | _ => .plain

def takeOne (spec : CommandSpec) (s : Scan) (text : String) : Except UsageError Scan :=
  if s.onlyArguments then s.takeArgument spec text
  else
    match shapeOf text with
    | .separator => .ok { s with onlyArguments := true }
    | .long name value => s.takeLong spec name value
    | .letters cs => s.takeLetters spec cs
    | .plain =>
      match s.pending with
      | some (o, none) => .ok { s with pending := some (o, some text) }
      | _ => s.takeArgument spec text

/-- Takes arguments up to the name of a command. The scan itself is left unsettled there, because what
follows the name is judged first. -/
def run (spec : CommandSpec) (s : Scan) : List String → Except UsageError ScanEnd
  | [] => .ok ⟨s, none⟩
  | text :: rest =>
    if !s.onlyArguments && !s.awaitsValue && spec.commands.contains text then
      .ok ⟨s, some (text, rest)⟩
    else do (← s.takeOne spec text).run spec rest

end Scan

end Telemux

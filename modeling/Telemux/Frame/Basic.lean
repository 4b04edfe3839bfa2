import Telemux.Frame.Body
import Telemux.Json.Printer

namespace Telemux

/-- One message on a link. A frame pushed unasked has sequence zero. -/
structure Frame where
  version : Nat
  kind : MessageKind
  sequence : Nat
  body : Value
  deriving DecidableEq

/-- The protocol version that is spoken, and the largest size of a frame's text in bytes. -/
structure FrameConfig where
  version : Nat := 1
  maxSize : Nat := 16 * 1024 * 1024
  deriving DecidableEq

def protocolVersion : Nat := 1

namespace Frame

def request (sequence : Nat) (body : RequestBody) : Frame :=
  ⟨protocolVersion, .request, sequence, body.toValue⟩

def reply (sequence : Nat) (body : ReplyBody) : Frame :=
  ⟨protocolVersion, .reply, sequence, ReplyBody.codec.write body⟩

def exception (sequence : Nat) (body : ExceptionBody) : Frame :=
  ⟨protocolVersion, .exception, sequence, ExceptionBody.codec.write body⟩

def data (body : DataBody) : Frame :=
  ⟨protocolVersion, .data, 0, DataBody.codec.write body⟩

/-- The document of a frame under the version of the configuration. -/
def envelope (config : FrameConfig) (f : Frame) : Value :=
  .array [.number (.int config.version), .number (.int f.kind.code), .number (.int f.sequence), f.body]

def encode (config : FrameConfig) (f : Frame) : Except FrameError String :=
  match f.body with
  | .object _ =>
    let text := (f.envelope config).compact
    if text.utf8ByteSize ≤ config.maxSize then .ok text
    else .error (.tooLarge text.utf8ByteSize config.maxSize)
  | _ => .error (.malformed .unwritableBody)

/-- The protocol version has thirty-two bits. -/
def versionOf (config : FrameConfig) (v : Value) : Except FrameFault Nat :=
  match v.nat? with
  | some n =>
    if 0x100000000 ≤ n then .error .versionNotNumber
    else if n = config.version then .ok n
    else .error (.version n config.version)
  | none => .error .versionNotNumber

def kindOf (v : Value) : Except FrameFault MessageKind :=
  match v.nat? with
  | some code =>
    match MessageKind.ofCode? code with
    | some kind => .ok kind
    | none => .error (.kind code)
  | none => .error .kindNotNumber

/-- A pushed frame may have null for its sequence, which counts as zero. -/
def sequenceOf (kind : MessageKind) (v : Value) : Except FrameFault Nat :=
  match kind, v with
  | .data, .null => .ok 0
  | _, v =>
    match v.nat? with
    | some n => .ok n
    | none => .error .sequenceNotNumber

def bodyOf (v : Value) : Except FrameFault Value :=
  match v with
  | .object _ => .ok v
  | _ => .error .bodyNotObject

/-- The frame that a document writes. Its parts are judged from the first to the last. -/
def ofValue (config : FrameConfig) : Value → Except FrameFault Frame
  | .array [v, k, s, b] => do
    let version ← versionOf config v
    let kind ← kindOf k
    let sequence ← sequenceOf kind s
    let body ← bodyOf b
    .ok ⟨version, kind, sequence, body⟩
  | .array vs => .error (.arity vs.length)
  | _ => .error .notArray

/-- Reads a frame. A text that is too long is refused whatever it holds. -/
def decode (config : FrameConfig) (text : String) : Except FrameError Frame :=
  if text.utf8ByteSize ≤ config.maxSize then
    match Value.read text with
    | .error e => .error (.json (.text e))
    | .ok v => (ofValue config v).mapError .malformed
  else .error (.tooLarge text.utf8ByteSize config.maxSize)

def bodyAs (kind : MessageKind) (c : Codec α) (f : Frame) : Except FrameError α :=
  if f.kind = kind then (c.read f.body).mapError fun m => .json (.shape m)
  else .error (.malformed (.wrongKind kind f.kind))

def requestBody (f : Frame) : Except FrameError RequestBody :=
  if f.kind = .request then (RequestBody.ofValue f.body).mapError .malformed
  else .error (.malformed (.wrongKind .request f.kind))

def replyBody : Frame → Except FrameError ReplyBody :=
  bodyAs .reply ReplyBody.codec

def exceptionBody : Frame → Except FrameError ExceptionBody :=
  bodyAs .exception ExceptionBody.codec

def dataBody : Frame → Except FrameError DataBody :=
  bodyAs .data DataBody.codec

end Frame

/-- What a frame carries, by its kind. -/
inductive Body where
  | request (body : RequestBody)
  | reply (body : ReplyBody)
  | exception (body : ExceptionBody)
  | data (body : DataBody)
  deriving DecidableEq

namespace Body

def kind : Body → MessageKind
  | .request _ => .request
  | .reply _ => .reply
  | .exception _ => .exception
  | .data _ => .data

/-- The frame that is made of a body. Pushed data has no sequence of its own. -/
def frame (sequence : Nat) : Body → Frame
  | .request body => .request sequence body
  | .reply body => .reply sequence body
  | .exception body => .exception sequence body
  | .data body => .data body

/-- Makes a frame of a document, which has to be an object. -/
def wrap (kind : MessageKind) (sequence : Nat) (document : Value) : Except FrameError Frame :=
  match document with
  | .object _ => .ok ⟨protocolVersion, kind, sequence, document⟩
  | _ => .error (.malformed .unwritableBody)

/-- Makes the frame of a body with the check of its document; requests need none. -/
def build (sequence : Nat) : Body → Except FrameError Frame
  | .request body => .ok (.request sequence body)
  | .reply body => wrap .reply sequence (ReplyBody.codec.write body)
  | .exception body => wrap .exception sequence (ExceptionBody.codec.write body)
  | .data body => wrap .data 0 (DataBody.codec.write body)

end Body

end Telemux

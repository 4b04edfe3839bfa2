import Telemux.Json.Codec

namespace Telemux

/-- The qualified name of a parameter or of another object of the mission database. -/
structure NamedObjectId where
  name : String
  space : Option String
  deriving DecidableEq

namespace NamedObjectId

def ofName (name : String) : NamedObjectId :=
  ⟨name, none⟩

def display (id : NamedObjectId) : String :=
  match id.space with
  | some space => space ++ "/" ++ id.name
  | none => id.name

def layout : Layout NamedObjectId NamedObjectId :=
  ((Layout.make NamedObjectId.mk).field "name" (.required .text) (·.name)).field
    "namespace" (.optional .text) (·.space)

def codec : Codec NamedObjectId :=
  .closedRecord "NamedObjectId" layout

theorem read_write (id : NamedObjectId) : codec.read (codec.write id) = .ok id := by
  obtain ⟨name, space⟩ := id
  cases space <;> rfl

end NamedObjectId

structure Instance where
  name : String
  state : Option String
  extra : Fields
  deriving DecidableEq

namespace Instance

def layout : Layout Instance (Fields → Instance) :=
  ((Layout.make Instance.mk).field "name" (.required .text) (·.name)).field
    "state" (.optional .text) (·.state)

def codec : Codec Instance :=
  .openRecord "Instance" layout (·.extra)

end Instance

structure Processor where
  instanceName : Option String
  name : String
  state : Option String
  extra : Fields
  deriving DecidableEq

namespace Processor

def layout : Layout Processor (Fields → Processor) :=
  (((Layout.make Processor.mk).field "instance" (.optional .text) (·.instanceName)).field
    "name" (.required .text) (·.name)).field
    "state" (.optional .text) (·.state)

def codec : Codec Processor :=
  .openRecord "Processor" layout (·.extra)

end Processor

/-- Who this client is to the server, told first on every link. -/
structure ConnectionInfo where
  clientId : Int
  home : Option Instance
  processor : Option Processor
  deriving DecidableEq

namespace ConnectionInfo

def layout : Layout ConnectionInfo ConnectionInfo :=
  (((Layout.make ConnectionInfo.mk).field "clientId" (.withDefault .int64 0) (·.clientId)).field
    "instance" (.optional Instance.codec) (·.home)).field
    "processor" (.optional Processor.codec) (·.processor)

def codec : Codec ConnectionInfo :=
  .closedRecord "ConnectionInfo" layout

end ConnectionInfo

end Telemux

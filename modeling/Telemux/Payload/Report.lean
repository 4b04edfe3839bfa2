import Telemux.Json.Codec
import Telemux.Payload.Identity

namespace Telemux

structure LogEvent where
  source : Option String
  severity : Option String
  message : Option String
  extra : Fields
  deriving DecidableEq

namespace LogEvent

def layout : Layout LogEvent (Fields → LogEvent) :=
  (((Layout.make LogEvent.mk).field "source" (.optional .text) (·.source)).field
    "severity" (.optional .text) (·.severity)).field
    "message" (.optional .text) (·.message)

def codec : Codec LogEvent :=
  .openRecord "Event" layout (·.extra)

end LogEvent

structure TimeInfo where
  currentTime : Option String
  extra : Fields
  deriving DecidableEq

namespace TimeInfo

def layout : Layout TimeInfo (Fields → TimeInfo) :=
  (Layout.make TimeInfo.mk).field "currentTime" (.optional .text) (·.currentTime)

def codec : Codec TimeInfo :=
  .openRecord "TimeInfo" layout (·.extra)

end TimeInfo

structure LinkInfo where
  instanceName : String
  name : String
  status : Option String
  extra : Fields
  deriving DecidableEq

namespace LinkInfo

def layout : Layout LinkInfo (Fields → LinkInfo) :=
  (((Layout.make LinkInfo.mk).field "instance" (.required .text) (·.instanceName)).field
    "name" (.required .text) (·.name)).field
    "status" (.optional .text) (·.status)

def codec : Codec LinkInfo :=
  .openRecord "LinkInfo" layout (·.extra)

end LinkInfo

structure LinkEvent where
  kind : Option String
  linkInfo : LinkInfo
  deriving DecidableEq

namespace LinkEvent

def layout : Layout LinkEvent LinkEvent :=
  ((Layout.make LinkEvent.mk).field "type" (.optional .text) (·.kind)).field
    "linkInfo" (.required LinkInfo.codec) (·.linkInfo)

def codec : Codec LinkEvent :=
  .closedRecord "LinkEvent" layout

end LinkEvent

structure StreamEvent where
  kind : Option String
  name : String
  extra : Fields
  deriving DecidableEq

namespace StreamEvent

def layout : Layout StreamEvent (Fields → StreamEvent) :=
  ((Layout.make StreamEvent.mk).field "type" (.optional .text) (·.kind)).field
    "name" (.required .text) (·.name)

def codec : Codec StreamEvent :=
  .openRecord "StreamEvent" layout (·.extra)

end StreamEvent

structure StreamData where
  stream : String
  extra : Fields
  deriving DecidableEq

namespace StreamData

def layout : Layout StreamData (Fields → StreamData) :=
  (Layout.make StreamData.mk).field "stream" (.required .text) (·.stream)

def codec : Codec StreamData :=
  .openRecord "StreamData" layout (·.extra)

end StreamData

structure Alarm where
  seqNum : Option Int
  id : Option NamedObjectId
  extra : Fields
  deriving DecidableEq

namespace Alarm

def layout : Layout Alarm (Fields → Alarm) :=
  ((Layout.make Alarm.mk).field "seqNum" (.optional .int64) (·.seqNum)).field
    "id" (.optional NamedObjectId.codec) (·.id)

def codec : Codec Alarm :=
  .openRecord "Alarm" layout (·.extra)

end Alarm

/-- A client of the server, this one or another. -/
structure ClientInfo where
  instanceName : Option String
  id : Option Int
  username : Option String
  extra : Fields
  deriving DecidableEq

namespace ClientInfo

def layout : Layout ClientInfo (Fields → ClientInfo) :=
  (((Layout.make ClientInfo.mk).field "instance" (.optional .text) (·.instanceName)).field
    "id" (.optional .int64) (·.id)).field
    "username" (.optional .text) (·.username)

def codec : Codec ClientInfo :=
  .openRecord "ClientInfo" layout (·.extra)

end ClientInfo

structure Statistics where
  instanceName : Option String
  processorName : Option String
  extra : Fields
  deriving DecidableEq

namespace Statistics

def layout : Layout Statistics (Fields → Statistics) :=
  ((Layout.make Statistics.mk).field "instance" (.optional .text) (·.instanceName)).field
    "yamcsProcessor" (.optional .text) (·.processorName)

def codec : Codec Statistics :=
  .openRecord "Statistics" layout (·.extra)

end Statistics

structure CommandQueue where
  instanceName : Option String
  processorName : Option String
  name : String
  extra : Fields
  deriving DecidableEq

namespace CommandQueue

def layout : Layout CommandQueue (Fields → CommandQueue) :=
  (((Layout.make CommandQueue.mk).field "instance" (.optional .text) (·.instanceName)).field
    "processorName" (.optional .text) (·.processorName)).field
    "name" (.required .text) (·.name)

def codec : Codec CommandQueue :=
  .openRecord "CommandQueue" layout (·.extra)

end CommandQueue

structure CommandQueueEntry where
  instanceName : Option String
  processorName : Option String
  queueName : Option String
  extra : Fields
  deriving DecidableEq

namespace CommandQueueEntry

def layout : Layout CommandQueueEntry (Fields → CommandQueueEntry) :=
  (((Layout.make CommandQueueEntry.mk).field "instance" (.optional .text) (·.instanceName)).field
    "processorName" (.optional .text) (·.processorName)).field
    "queueName" (.optional .text) (·.queueName)

def codec : Codec CommandQueueEntry :=
  .openRecord "CommandQueueEntry" layout (·.extra)

end CommandQueueEntry

structure CommandQueueEvent where
  kind : Option String
  entry : CommandQueueEntry
  deriving DecidableEq

namespace CommandQueueEvent

def layout : Layout CommandQueueEvent CommandQueueEvent :=
  ((Layout.make CommandQueueEvent.mk).field "type" (.optional .text) (·.kind)).field
    "data" (.required CommandQueueEntry.codec) (·.entry)

def codec : Codec CommandQueueEvent :=
  .closedRecord "CommandQueueEvent" layout

end CommandQueueEvent

end Telemux

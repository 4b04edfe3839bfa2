import Telemux.Payload.Identity
import Telemux.Table

namespace Telemux

/-- One sample of a parameter. A server that uses numeric ids leaves the name out. -/
structure ParameterValue where
  id : Option NamedObjectId
  numericId : Option Nat
  extra : Fields
  deriving DecidableEq

namespace ParameterValue

def layout : Layout ParameterValue (Fields → ParameterValue) :=
  ((Layout.make ParameterValue.mk).field "id" (.optional NamedObjectId.codec) (·.id)).field
    "numericId" (.optional .nat32) (·.numericId)

def codec : Codec ParameterValue :=
  .openRecord "ParameterValue" layout (·.extra)

end ParameterValue

/-- The samples of one push, under the server's number of the subscription. -/
structure ParameterData where
  subscriptionId : Option Int
  parameter : List ParameterValue
  deriving DecidableEq

namespace ParameterData

def layout : Layout ParameterData ParameterData :=
  ((Layout.make ParameterData.mk).field "subscriptionId" (.optional .int64) (·.subscriptionId)).field
    "parameter" (.withDefault ParameterValue.codec.list []) (·.parameter)

def codec : Codec ParameterData :=
  .closedRecord "ParameterData" layout

end ParameterData

/-- An accepted parameter and the number that stands for it in samples. -/
structure SubscribedParameter where
  id : NamedObjectId
  numericId : Nat
  deriving DecidableEq

namespace SubscribedParameter

def layout : Layout SubscribedParameter SubscribedParameter :=
  ((Layout.make SubscribedParameter.mk).field "id" (.required NamedObjectId.codec) (·.id)).field
    "numericId" (.required .nat32) (·.numericId)

def codec : Codec SubscribedParameter :=
  .closedRecord "SubscribedParameter" layout

end SubscribedParameter

abbrev NumericMapping := Table NamedObjectId

/-- The last entry of a number counts. -/
def NumericMapping.ofSubscribed (ps : List SubscribedParameter) : NumericMapping :=
  ps.foldl (fun mapping p => mapping.insert p.numericId p.id) .empty

/-- The answer to a parameter subscription: the parameters that are accepted and those that are not. -/
structure ParameterReply where
  subscriptionId : Option Int
  subscribed : List SubscribedParameter
  invalid : List NamedObjectId
  mapping : NumericMapping
  deriving DecidableEq

namespace ParameterReply

/-- The names of numeric ids are not sent; a reply that was just read has none. -/
def layout : Layout ParameterReply ParameterReply :=
  (((Layout.make fun s ps is => ParameterReply.mk s ps is .empty).field
    "subscriptionId" (.optional .int64) (·.subscriptionId)).field
    "subscribed" (.withDefault SubscribedParameter.codec.list []) (·.subscribed)).field
    "invalid" (.withDefault NamedObjectId.codec.list []) (·.invalid)

def codec : Codec ParameterReply :=
  .closedRecord "ParameterSubscriptionReply" layout

def ofValue (v : Value) : Except Misfit ParameterReply :=
  (codec.read v).map fun r => { r with mapping := .ofSubscribed r.subscribed }

end ParameterReply

/-- The parameters to subscribe to, and how the server is to send them. -/
structure ParameterRequest where
  id : List NamedObjectId
  abortOnInvalid : Option Bool
  updateOnExpiration : Option Bool
  sendFromCache : Option Bool
  useNumericIds : Option Bool
  subscriptionId : Option Int
  deriving DecidableEq

namespace ParameterRequest

/-- Subscribes by name and asks for samples with numeric ids. -/
def numeric (names : List String) : ParameterRequest :=
  ⟨names.map .ofName, none, none, none, some true, none⟩

def layout : Layout ParameterRequest ParameterRequest :=
  ((((((Layout.make ParameterRequest.mk).field
    "id" (.required NamedObjectId.codec.list) (·.id)).field
    "abortOnInvalid" (.optional .flag) (·.abortOnInvalid)).field
    "updateOnExpiration" (.optional .flag) (·.updateOnExpiration)).field
    "sendFromCache" (.optional .flag) (·.sendFromCache)).field
    "useNumericIds" (.optional .flag) (·.useNumericIds)).field
    "subscriptionId" (.optional .int64) (·.subscriptionId)

def codec : Codec ParameterRequest :=
  .closedRecord "ParameterSubscriptionRequest" layout

end ParameterRequest

end Telemux

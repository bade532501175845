import Stevedore.Manager.Event
import Stevedore.Manager.Framing

/-!
# Faults of the manager

What can go wrong between the framework and the manager, and how it is reported.
-/

namespace Stevedore.Manager

/-- A breach of the protocol by the manager. -/
inductive Breach where
  /-- The stream of records cannot be taken apart. -/
  | framing (fault : FramingFault)
  /-- A message lacks the part that its kind needs. -/
  | missingPart (kind : EventKind)
  /-- The answer to a subscription names no stream. -/
  | missingStreamId
  deriving DecidableEq, Repr

/-- The name of the header that identifies a stream. -/
def streamIdHeader : String := "Mesos-Stream-Id"

/-- What is reported of a breach. -/
def Breach.message : Breach → String
  | framing fault => fault.message
  | missingPart kind => (MissingPart.mk kind).message
  | missingStreamId => s!"missing {streamIdHeader} header"

/-- What can go wrong with the manager. -/
inductive Fault where
  /-- The connection failed. -/
  | transport
  /-- A record holds no message. -/
  | undecodable
  /-- The manager broke the protocol. -/
  | protocol (breach : Breach)
  /-- The manager refused a call. -/
  | status (code : Nat) (body : String)
  /-- There is no stream to which a call could belong. -/
  | notSubscribed
  deriving DecidableEq, Repr

/-- What is reported of a fault. -/
def Fault.message : Fault → String
  | transport => "http request failed"
  | undecodable => "failed to decode message"
  | protocol breach => "protocol error: " ++ breach.message
  | status code body => s!"manager rejected call with status {Text.decimal code}: {body}"
  | notSubscribed => "no active subscription"

end Stevedore.Manager

import Quorate.Failure

/-!
The settings of a node with their defaults, and what settings must satisfy.
-/

namespace Quorate

structure WriteSettings where
  maxPutRetries : UInt32 := 3
deriving DecidableEq, Repr

structure MessagingSettings where
  responseTimeoutMillis : UInt64 := 10000
deriving DecidableEq, Repr

structure StoreSettings where
  peers : UInt64 := 5
  replicationFactor : UInt64 := 3
  latencyMillis : UInt64 := 0
deriving DecidableEq, Repr

structure Settings where
  nodeId : String := "node-1"
  write : WriteSettings := {}
  messaging : MessagingSettings := {}
  store : StoreSettings := {}
  logLevel : String := "info"
deriving DecidableEq, Repr

namespace Settings

def version : String := "0.1.0"

/-- What makes settings unfit, in the order in which it is looked for. -/
inductive Fault where
  | noPeers
  | noReplicas
  | noTimeout
deriving DecidableEq, Repr

def Fault.message : Fault → String
  | .noPeers => "dht.peers must be at least 1"
  | .noReplicas => "dht.replication_factor must be at least 1"
  | .noTimeout => "messaging.response_timeout_ms must be positive"

def validate (settings : Settings) : Except Fault Unit :=
  if settings.store.peers = 0 then .error .noPeers
  else if settings.store.replicationFactor = 0 then .error .noReplicas
  else if settings.messaging.responseTimeoutMillis = 0 then .error .noTimeout
  else .ok ()

end Settings

def Failure.ofSettingsFault (fault : Settings.Fault) : Failure := .invalidConfig fault.message

end Quorate

import Quorate.Json.Record
import Quorate.Settings.Basic

/-!
Settings as JSON values, and back. Every field and every section may be absent.
-/

namespace Quorate

def WriteSettings.toJson (settings : WriteSettings) : Json :=
  .ofMembers [("max_put_retries", .ofNat settings.maxPutRetries.toNat)]

def WriteSettings.ofJson? (json : Json) : Option WriteSettings :=
  let base : WriteSettings := {}
  match json.fields? ["max_put_retries"] with
  | some [retries] => do
      let retries ← Json.optional base.maxPutRetries Json.asUInt32? retries
      pure ⟨retries⟩
  | _ => none

def MessagingSettings.toJson (settings : MessagingSettings) : Json :=
  .ofMembers [("response_timeout_ms", .ofNat settings.responseTimeoutMillis.toNat)]

def MessagingSettings.ofJson? (json : Json) : Option MessagingSettings :=
  let base : MessagingSettings := {}
  match json.fields? ["response_timeout_ms"] with
  | some [timeout] => do
      let timeout ← Json.optional base.responseTimeoutMillis Json.asUInt64? timeout
      pure ⟨timeout⟩
  | _ => none

def StoreSettings.toJson (settings : StoreSettings) : Json :=
  .ofMembers
    [("peers", .ofNat settings.peers.toNat),
     ("replication_factor", .ofNat settings.replicationFactor.toNat),
     ("latency_ms", .ofNat settings.latencyMillis.toNat)]

def StoreSettings.ofJson? (json : Json) : Option StoreSettings :=
  let base : StoreSettings := {}
  match json.fields? ["peers", "replication_factor", "latency_ms"] with
  | some [peers, factor, latency] => do
      let peers ← Json.optional base.peers Json.asUInt64? peers
      let factor ← Json.optional base.replicationFactor Json.asUInt64? factor
      let latency ← Json.optional base.latencyMillis Json.asUInt64? latency
      pure ⟨peers, factor, latency⟩
  | _ => none

def Settings.toJson (settings : Settings) : Json :=
  .ofMembers
    [("node_id", .ofString settings.nodeId), ("write", settings.write.toJson),
     ("messaging", settings.messaging.toJson), ("dht", settings.store.toJson),
     ("log_level", .ofString settings.logLevel)]

def Settings.ofJson? (json : Json) : Option Settings :=
  let base : Settings := {}
  match json.fields? ["node_id", "write", "messaging", "dht", "log_level"] with
  | some [nodeId, write, messaging, store, logLevel] => do
      let nodeId ← Json.optional base.nodeId Json.asString? nodeId
      let write ← Json.optional base.write WriteSettings.ofJson? write
      let messaging ← Json.optional base.messaging MessagingSettings.ofJson? messaging
      let store ← Json.optional base.store StoreSettings.ofJson? store
      let logLevel ← Json.optional base.logLevel Json.asString? logLevel
      pure ⟨nodeId, write, messaging, store, logLevel⟩
  | _ => none

def Settings.codec : Json.Codec Settings := ⟨Settings.toJson, Settings.ofJson?⟩

end Quorate

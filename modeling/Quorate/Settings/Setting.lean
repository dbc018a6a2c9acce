import Quorate.Settings.Basic

/-!
The single values that settings consist of, and where they are written: some under a name of their
own, the others under a name in a section.
-/

namespace Quorate

inductive Setting where
  | nodeId
  | maxPutRetries
  | responseTimeout
  | peers
  | replicationFactor
  | latency
  | logLevel
deriving DecidableEq, Repr

namespace Setting

def Value : Setting → Type
  | .nodeId => String
  | .maxPutRetries => UInt32
  | .responseTimeout => UInt64
  | .peers => UInt64
  | .replicationFactor => UInt64
  | .latency => UInt64
  | .logLevel => String

def section? : Setting → Option String
  | .nodeId => none
  | .maxPutRetries => some "write"
  | .responseTimeout => some "messaging"
  | .peers => some "dht"
  | .replicationFactor => some "dht"
  | .latency => some "dht"
  | .logLevel => none

def key : Setting → String
  | .nodeId => "node_id"
  | .maxPutRetries => "max_put_retries"
  | .responseTimeout => "response_timeout_ms"
  | .peers => "peers"
  | .replicationFactor => "replication_factor"
  | .latency => "latency_ms"
  | .logLevel => "log_level"

def path (setting : Setting) : List String := setting.section?.toList ++ [setting.key]

end Setting

namespace Settings

def get (settings : Settings) : (setting : Setting) → setting.Value
  | .nodeId => settings.nodeId
  | .maxPutRetries => settings.write.maxPutRetries
  | .responseTimeout => settings.messaging.responseTimeoutMillis
  | .peers => settings.store.peers
  | .replicationFactor => settings.store.replicationFactor
  | .latency => settings.store.latencyMillis
  | .logLevel => settings.logLevel

def ofValues (values : (setting : Setting) → setting.Value) : Settings where
  nodeId := values .nodeId
  write := ⟨values .maxPutRetries⟩
  messaging := ⟨values .responseTimeout⟩
  store := ⟨values .peers, values .replicationFactor, values .latency⟩
  logLevel := values .logLevel

@[simp] theorem get_ofValues (values : (setting : Setting) → setting.Value) (setting : Setting) :
    (ofValues values).get setting = values setting := by
  cases setting <;> rfl

@[simp] theorem ofValues_get (settings : Settings) : ofValues settings.get = settings := rfl

/-- Settings are their single values. -/
theorem ext_get {settings others : Settings}
    (same : ∀ setting, settings.get setting = others.get setting) : settings = others := by
  rw [← ofValues_get settings, ← ofValues_get others]
  exact congrArg ofValues (funext same)

/-- The settings with some of their values, and the defaults for the others. -/
def keeping (settings : Settings) (kept : Setting → Bool) : Settings :=
  ofValues fun setting => if kept setting then settings.get setting else get {} setting

end Settings
end Quorate

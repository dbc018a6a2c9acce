import Quorate.Binary64.Shortest
import Quorate.Settings.Basic
import Quorate.Text.Numeral
import Quorate.Toml.Basic

/-!
How values become settings. Numbers and truth values may be given as text, and text as numbers or
truth values; a value of any other kind does not fit. Whatever is absent keeps its default.
-/

namespace Quorate

namespace Toml

/-- The fields of a section: named in a table, in their order in an array. -/
def fields? (names : List String) : Toml → Option (List (Option Toml))
  | .table entries => some (names.map fun name => entries.lookup name)
  | .array items => some ((List.range names.length).map fun index => items[index]?)
  | _ => none

/-- A number given as text: a word for one or zero, or a decimal numeral with or without a plus. -/
def unsignedOfText? (text : String) : Option Nat :=
  let word := String.ofList (text.toList.map Char.toLower)
  if word ∈ ["true", "on", "yes"] then some 1
  else if word ∈ ["false", "off", "no"] then some 0
  else
    match text.toList with
    | '+' :: digits => Text.readDecimalBelow UInt64.size digits
    | digits => Text.readDecimalBelow UInt64.size digits

def asUnsigned? : Toml → Option Nat
  | .integer value => if 0 ≤ value then some value.toNat else none
  | .bool value => some (if value then 1 else 0)
  | .float value => some (Binary64.toNatUpTo (UInt64.size - 1) value)
  | .string content => unsignedOfText? content
  | .moment shown => unsignedOfText? shown
  | .array _ => none
  | .table _ => none
  | .gap => none

def asUInt64? (value : Toml) : Option UInt64 := value.asUnsigned?.map UInt64.ofNat

def asUInt32? (value : Toml) : Option UInt32 :=
  (value.asUnsigned?.filter (· < UInt32.size)).map UInt32.ofNat

def asText? : Toml → Option String
  | .string content => some content
  | .bool value => some (if value then "true" else "false")
  | .integer value =>
      let sign := if value < 0 then "-" else ""
      some (sign ++ Text.decimalText value.natAbs)
  | .float value => some (Binary64.text value)
  | .moment shown => some shown
  | .array _ => none
  | .table _ => none
  | .gap => none

def optional {α : Type} (default : α) (convert : Toml → Option α) : Option Toml → Option α
  | none => some default
  | some value => convert value

end Toml

def WriteSettings.ofToml? (value : Toml) : Option WriteSettings :=
  let base : WriteSettings := {}
  match value.fields? ["max_put_retries"] with
  | some [retries] => do
      let retries ← Toml.optional base.maxPutRetries Toml.asUInt32? retries
      pure ⟨retries⟩
  | _ => none

def MessagingSettings.ofToml? (value : Toml) : Option MessagingSettings :=
  let base : MessagingSettings := {}
  match value.fields? ["response_timeout_ms"] with
  | some [timeout] => do
      let timeout ← Toml.optional base.responseTimeoutMillis Toml.asUInt64? timeout
      pure ⟨timeout⟩
  | _ => none

def StoreSettings.ofToml? (value : Toml) : Option StoreSettings :=
  let base : StoreSettings := {}
  match value.fields? ["peers", "replication_factor", "latency_ms"] with
  | some [peers, factor, latency] => do
      let peers ← Toml.optional base.peers Toml.asUInt64? peers
      let factor ← Toml.optional base.replicationFactor Toml.asUInt64? factor
      let latency ← Toml.optional base.latencyMillis Toml.asUInt64? latency
      pure ⟨peers, factor, latency⟩
  | _ => none

namespace Settings

/-- The settings that a table gives; names that are no settings do not count. -/
def ofTable? (table : Toml.Table) : Option Settings := do
  let base : Settings := {}
  let nodeId ← Toml.optional base.nodeId Toml.asText? (table.lookup "node_id")
  let write ← Toml.optional base.write WriteSettings.ofToml? (table.lookup "write")
  let messaging ← Toml.optional base.messaging MessagingSettings.ofToml? (table.lookup "messaging")
  let store ← Toml.optional base.store StoreSettings.ofToml? (table.lookup "dht")
  let logLevel ← Toml.optional base.logLevel Toml.asText? (table.lookup "log_level")
  pure ⟨nodeId, write, messaging, store, logLevel⟩

end Settings
end Quorate

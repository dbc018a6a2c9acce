import Mathlib
import Quorate.Proofs.Settings.Layers
import Quorate.Settings.Load

/-!
Where loaded settings come from. Each of them is the one that the environment gives, else the one of
the file, else the default, whatever the others are; and the whole is valid. Loading fails for three
reasons only: a value does not fit its setting, something else stands where a section goes, or the
settings that come out are not valid.
-/

namespace Quorate

open Toml

/-! ### Conversions -/

namespace Setting

def convert : (setting : Setting) → Toml → Option setting.Value
  | .nodeId => asText?
  | .maxPutRetries => asUInt32?
  | .responseTimeout => asUInt64?
  | .peers => asUInt64?
  | .replicationFactor => asUInt64?
  | .latency => asUInt64?
  | .logLevel => asText?

/-- The value that stands for a setting: a text of the environment before a value of the file. -/
def source? (setting : Setting) (file : Table) (environment : List (String × String)) :
    Option Toml :=
  (((Settings.given environment).lookup setting.name).map .string).or (setting.inTable? file)

def resolve? (setting : Setting) (source : Option Toml) : Option setting.Value :=
  Toml.optional (Settings.get {} setting) setting.convert source

private theorem convert_overlay (setting : Setting) (value : Toml) (lower : Option Toml) :
    setting.convert (value.overlay lower) = setting.convert value := by
  cases value with
  | table entries => rw [overlay]; cases setting <;> rfl
  | _ => rw [overlay]

private theorem resolve?_map_overlay (setting : Setting) (text : Option String)
    (value : Option Toml) :
    setting.resolve? ((text.map .string).or (value.map fun value => value.overlay none)) =
      setting.resolve? ((text.map .string).or value) := by
  cases text with
  | some text => rfl
  | none =>
      cases value with
      | none => rfl
      | some value => exact convert_overlay setting value none

end Setting

/-! ### Sections -/

def Clear (found : Option Toml) : Prop := ∀ value, found = some value → value.isTable = true

private theorem optional_section_eq_some_iff {α : Type} {default : α} {convert : Toml → Option α}
    (refuses : ∀ value, value.isTable = false → (∀ items, value ≠ .array items) →
      convert value = none)
    (empty : convert (.table []) = some default)
    {found : Option Toml} (noArray : ∀ items, found ≠ some (.array items)) (result : α) :
    Toml.optional default convert found = some result ↔
      Clear found ∧ convert (.table ((found.map Toml.entries).getD [])) = some result := by
  cases found with
  | none =>
      rw [Toml.optional, ← empty]
      exact ⟨fun same => ⟨nofun, same⟩, fun both => both.2⟩
  | some value =>
      rw [Toml.optional]
      cases isTable : value.isTable with
      | true =>
          cases value with
          | table entries =>
              have clear : Clear (some (.table entries)) := fun _ this => Option.some.inj this ▸ rfl
              exact ⟨fun same => ⟨clear, same⟩, fun both => both.2⟩
          | _ => cases isTable
      | false =>
          rw [refuses value isTable fun items same => noArray items (congrArg some same)]
          refine ⟨nofun, fun both => ?_⟩
          rw [both.1 value rfl] at isTable
          cases isTable

private theorem refuses_of_fields? {names : List String} {value : Toml}
    (isTable : value.isTable = false) (noArray : ∀ items, value ≠ .array items) :
    value.fields? names = none := by
  cases value with
  | table entries => cases isTable
  | array items => exact absurd rfl (noArray items)
  | _ => rfl

private theorem WriteSettings.refuses (value : Toml) (isTable : value.isTable = false)
    (noArray : ∀ items, value ≠ .array items) : WriteSettings.ofToml? value = none := by
  rw [WriteSettings.ofToml?, refuses_of_fields? isTable noArray]

private theorem WriteSettings.ofToml?_table (entries : Table) (settings : WriteSettings) :
    WriteSettings.ofToml? (.table entries) = some settings ↔
      Setting.maxPutRetries.resolve? (entries.lookup "max_put_retries") =
        some settings.maxPutRetries := by
  change (Setting.maxPutRetries.resolve? (entries.lookup "max_put_retries")).bind
    (fun retries => some ⟨retries⟩) = some settings ↔ _
  rw [Option.bind_eq_some_iff]
  constructor
  · rintro ⟨retries, hasRetries, made⟩
    cases made
    exact hasRetries
  · exact fun hasRetries => ⟨_, hasRetries, rfl⟩

private theorem MessagingSettings.refuses (value : Toml) (isTable : value.isTable = false)
    (noArray : ∀ items, value ≠ .array items) : MessagingSettings.ofToml? value = none := by
  rw [MessagingSettings.ofToml?, refuses_of_fields? isTable noArray]

private theorem MessagingSettings.ofToml?_table (entries : Table) (settings : MessagingSettings) :
    MessagingSettings.ofToml? (.table entries) = some settings ↔
      Setting.responseTimeout.resolve? (entries.lookup "response_timeout_ms") =
        some settings.responseTimeoutMillis := by
  change (Setting.responseTimeout.resolve? (entries.lookup "response_timeout_ms")).bind
    (fun timeout => some ⟨timeout⟩) = some settings ↔ _
  rw [Option.bind_eq_some_iff]
  constructor
  · rintro ⟨timeout, hasTimeout, made⟩
    cases made
    exact hasTimeout
  · exact fun hasTimeout => ⟨_, hasTimeout, rfl⟩

private theorem StoreSettings.refuses (value : Toml) (isTable : value.isTable = false)
    (noArray : ∀ items, value ≠ .array items) : StoreSettings.ofToml? value = none := by
  rw [StoreSettings.ofToml?, refuses_of_fields? isTable noArray]

private theorem StoreSettings.ofToml?_table (entries : Table) (settings : StoreSettings) :
    StoreSettings.ofToml? (.table entries) = some settings ↔
      Setting.peers.resolve? (entries.lookup "peers") = some settings.peers ∧
      Setting.replicationFactor.resolve? (entries.lookup "replication_factor") =
        some settings.replicationFactor ∧
      Setting.latency.resolve? (entries.lookup "latency_ms") = some settings.latencyMillis := by
  change ((Setting.peers.resolve? (entries.lookup "peers")).bind fun peers =>
    (Setting.replicationFactor.resolve? (entries.lookup "replication_factor")).bind fun factor =>
    (Setting.latency.resolve? (entries.lookup "latency_ms")).bind fun latency =>
      some ⟨peers, factor, latency⟩) = some settings ↔ _
  simp only [Option.bind_eq_some_iff]
  constructor
  · rintro ⟨peers, hasPeers, factor, hasFactor, latency, hasLatency, made⟩
    cases made
    exact ⟨hasPeers, hasFactor, hasLatency⟩
  · rintro ⟨hasPeers, hasFactor, hasLatency⟩
    exact ⟨_, hasPeers, _, hasFactor, _, hasLatency, rfl⟩

namespace Settings

def NoArrays (table : Table) : Prop :=
  ∀ (setting : Setting) (group : String), setting.section? = some group →
    ∀ items, table.lookup group ≠ some (.array items)

private theorem ofTable?_eq_some_iff {table : Table} (noArrays : NoArrays table)
    (settings : Settings) :
    ofTable? table = some settings ↔
      (∀ (setting : Setting) (group : String), setting.section? = some group →
        Clear (table.lookup group)) ∧
      ∀ setting : Setting, setting.resolve? (setting.inTable? table) =
        some (settings.get setting) := by
  change ((Setting.nodeId.resolve? (Setting.nodeId.inTable? table)).bind fun nodeId =>
    (Toml.optional {} WriteSettings.ofToml? (table.lookup "write")).bind fun write =>
    (Toml.optional {} MessagingSettings.ofToml? (table.lookup "messaging")).bind fun messaging =>
    (Toml.optional {} StoreSettings.ofToml? (table.lookup "dht")).bind fun store =>
    (Setting.logLevel.resolve? (Setting.logLevel.inTable? table)).bind fun logLevel =>
      some ⟨nodeId, write, messaging, store, logLevel⟩) = some settings ↔ _
  have write := optional_section_eq_some_iff WriteSettings.refuses rfl
    (noArrays .maxPutRetries "write" rfl)
  have messaging := optional_section_eq_some_iff MessagingSettings.refuses rfl
    (noArrays .responseTimeout "messaging" rfl)
  have store := optional_section_eq_some_iff StoreSettings.refuses rfl
    (noArrays .peers "dht" rfl)
  simp only [Option.bind_eq_some_iff, write, messaging, store, WriteSettings.ofToml?_table,
    MessagingSettings.ofToml?_table, StoreSettings.ofToml?_table]
  constructor
  · rintro ⟨nodeId, hasNodeId, write, ⟨clearWrite, hasRetries⟩, messaging,
      ⟨clearMessaging, hasTimeout⟩, store, ⟨clearStore, hasPeers, hasFactor, hasLatency⟩, logLevel,
      hasLogLevel, made⟩
    cases made
    constructor
    · intro setting group isGroup
      cases setting <;> cases isGroup <;> assumption
    · intro setting
      cases setting <;> assumption
  · rintro ⟨clear, has⟩
    exact ⟨_, has .nodeId, _, ⟨clear .maxPutRetries "write" rfl, has .maxPutRetries⟩, _,
      ⟨clear .responseTimeout "messaging" rfl, has .responseTimeout⟩, _,
      ⟨clear .peers "dht" rfl, has .peers, has .replicationFactor, has .latency⟩, _,
      has .logLevel, rfl⟩

/-! ### Layers -/

/-- A table that names its entries without quotes and has no arrays among them. -/
def Flat (table : Table) : Prop :=
  ∀ entry ∈ table, Bare entry.1 ∧ ∀ items, entry.2 ≠ .array items

/-- Something that is no table stands where a section goes, and no setting of the section has a
text that would make room for it. -/
def Blocked (file : Table) (environment : List (String × String)) : Prop :=
  ∃ group ∈ ["write", "messaging", "dht"], ∃ value, file.lookup group = some value ∧
    value.isTable = false ∧ ∀ setting : Setting, setting.section? = some group →
      (given environment).lookup setting.name = none

private theorem section?_eq_some_iff_mem {group : String} :
    (∃ setting : Setting, setting.section? = some group) ↔
      group ∈ ["write", "messaging", "dht"] := by
  constructor
  · rintro ⟨setting, isGroup⟩
    cases setting <;> cases isGroup <;> decide
  · intro member
    simp only [List.mem_cons, List.not_mem_nil, or_false] at member
    rcases member with rfl | rfl | rfl
    exacts [⟨.maxPutRetries, rfl⟩, ⟨.responseTimeout, rfl⟩, ⟨.peers, rfl⟩]

section Layers

variable {file : Table} {environment : List (String × String)}

private theorem lookup_ne_array (flat : Flat file) (group : String) (items : List Toml) :
    (file.lookup group).map (fun value => value.overlay none) ≠ some (.array items) := by
  intro found
  obtain ⟨value, stands, same⟩ := Option.map_eq_some_iff.mp found
  have member : (group, value) ∈ file := Association.mem_of_lookup_eq_some stands
  cases value with
  | array others => exact (flat _ member).2 others rfl
  | _ => rw [overlay] at same; cases same

private theorem clear_lookup_fill {base : Table} {texts : List (Setting × String)} {other : Setting}
    {group : String} (isGroup : other.section? = some group)
    (stands : base.lookup group = (file.lookup group).map fun value => value.overlay none) :
    Clear ((fill texts base).lookup group) ↔
      ¬∃ value, file.lookup group = some value ∧ value.isTable = false ∧
        ∀ setting : Setting, setting.section? = some group → texts.lookup setting = none := by
  rcases lookup_fill texts base isGroup with ⟨others, same⟩ | ⟨⟨entry, member, here⟩, entries, same⟩
  · have silent (setting : Setting) (within : setting.section? = some group) :
        texts.lookup setting = none := by
      refine Association.lookup_eq_none_iff_not_mem.mpr fun present => ?_
      obtain ⟨entry, member, rfl⟩ := List.mem_map.mp present
      exact others entry member within
    rw [same, stands]
    constructor
    · rintro clear ⟨value, found, isTable, -⟩
      have still := clear (value.overlay none) (by rw [found]; rfl)
      rw [isTable_overlay, isTable] at still
      cases still
    · intro free value found
      obtain ⟨below, under, rfl⟩ := Option.map_eq_some_iff.mp found
      rw [isTable_overlay]
      by_contra isTable
      exact free ⟨below, under, Bool.not_eq_true _ ▸ isTable, silent⟩
  · rw [same]
    refine ⟨fun _ blocked => ?_, fun _ value found => Option.some.inj found ▸ rfl⟩
    obtain ⟨-, -, -, silent⟩ := blocked
    have absent := Association.lookup_eq_none_iff_not_mem.mp (silent entry.1 here)
    exact absent (List.mem_map.mpr ⟨entry, member, rfl⟩)

/-- A file and an environment over it give what the single settings are resolved to, unless a
section is blocked. -/
theorem ofTable?_layers (flat : Flat file) (tidy : file.Tidy) (proper : Proper environment)
    (settings : Settings) :
    ofTable? (layer (layer [] file) (environmentLayer environment)) = some settings ↔
      ¬Blocked file environment ∧
      ∀ setting : Setting, setting.resolve? (setting.source? file environment) =
        some (settings.get setting) := by
  have bare : ∀ entry ∈ file, Bare entry.1 := fun entry member => (flat entry member).1
  obtain ⟨texts, gives⟩ := exists_settings proper.named
  have once := nodup_settings (gives ▸ proper.once)
  have merged : layer (layer [] file) (environmentLayer environment) =
      fill texts (layer [] file) := by
    rw [environmentLayer_eq, gives, List.map_map]
    exact layer_settings texts _
  have text (setting : Setting) :
      (given environment).lookup setting.name = texts.lookup setting := by
    rw [gives, lookup_settings]
  have values (setting : Setting) :
      setting.resolve? (setting.inTable? (fill texts (layer [] file))) =
        setting.resolve? (setting.source? file environment) := by
    rw [inTable?_fill once, setting.inTable?_layer_nil bare tidy, Setting.resolve?_map_overlay,
      Setting.source?, text]
  have noArrays : NoArrays (fill texts (layer [] file)) := by
    intro setting group isGroup items found
    rcases lookup_fill texts (layer [] file) isGroup with ⟨-, stands⟩ | ⟨-, entries, stands⟩
    · rw [stands, lookup_layer_nil bare tidy.distinct] at found
      exact lookup_ne_array flat group items found
    · cases stands.symm.trans found
  have clear : (∀ (setting : Setting) (group : String), setting.section? = some group →
      Clear ((fill texts (layer [] file)).lookup group)) ↔ ¬Blocked file environment := by
    have stands := lookup_layer_nil bare tidy.distinct
    simp only [Blocked, text]
    constructor
    · rintro clear ⟨group, isGroup, blocked⟩
      obtain ⟨setting, isGroup⟩ := section?_eq_some_iff_mem.mpr isGroup
      exact (clear_lookup_fill isGroup (stands group)).mp (clear setting group isGroup) blocked
    · intro free setting group isGroup
      refine (clear_lookup_fill isGroup (stands group)).mpr fun blocked => ?_
      exact free ⟨group, section?_eq_some_iff_mem.mp ⟨setting, isGroup⟩, blocked⟩
  rw [merged, ofTable?_eq_some_iff noArrays, clear]
  simp only [values]

end Layers

/-! ### Loading -/

private theorem validate_eq_ok_iff (settings : Settings) :
    settings.validate = .ok () ↔
      1 ≤ settings.store.peers ∧ 1 ≤ settings.store.replicationFactor ∧
        1 ≤ settings.messaging.responseTimeoutMillis := by
  have positive (number : UInt64) : 1 ≤ number ↔ number ≠ 0 := by
    rw [UInt64.le_iff_toNat_le, ne_eq, ← UInt64.toNat_inj]
    exact Nat.one_le_iff_ne_zero
  rw [positive, positive, positive, validate]
  split
  next none => exact ⟨nofun, fun valid => absurd none valid.1⟩
  next =>
    split
    next none => exact ⟨nofun, fun valid => absurd none valid.2.1⟩
    next =>
      split
      next none => exact ⟨nofun, fun valid => absurd none valid.2.2⟩
      next peers replicas timeout => exact ⟨fun _ => ⟨peers, replicas, timeout⟩, fun _ => rfl⟩

private theorem ofLayers_eq_ok_iff {file environment : Table} {settings : Settings} :
    ofLayers file environment = .ok settings ↔
      ofTable? (layer (layer [] file) environment) = some settings ∧
        settings.validate = .ok () := by
  rw [ofLayers]
  split
  next none => exact ⟨nofun, fun both => nomatch none.symm.trans both.1⟩
  next loaded found =>
    split
    next fault invalid =>
      refine ⟨nofun, fun both => ?_⟩
      cases found.symm.trans both.1
      cases invalid.symm.trans both.2
    next valid =>
      constructor
      · intro same
        cases same
        exact ⟨found, valid⟩
      · intro both
        cases found.symm.trans both.1
        rfl

private theorem eq_of_resolve? {sources : Setting → Option Toml} {settings others : Settings}
    (has : ∀ setting, setting.resolve? (sources setting) = some (settings.get setting))
    (hasToo : ∀ setting, setting.resolve? (sources setting) = some (others.get setting)) :
    settings = others :=
  ext_get fun setting => Option.some.inj ((has setting).symm.trans (hasToo setting))

private theorem exists_resolved_or (sources : Setting → Option Toml) :
    (∃ settings : Settings, ∀ setting, setting.resolve? (sources setting) =
      some (settings.get setting)) ∨
    ∃ (setting : Setting) (value : Toml), sources setting = some value ∧
      setting.convert value = none := by
  by_cases all : ∀ setting : Setting, ∃ value, setting.resolve? (sources setting) = some value
  · choose values resolved using all
    exact .inl ⟨ofValues values, fun setting => by rw [get_ofValues, resolved]⟩
  · obtain ⟨setting, none⟩ := not_forall.mp all
    refine .inr ⟨setting, ?_⟩
    cases source : sources setting with
    | none => exact absurd ⟨_, by rw [source]; rfl⟩ none
    | some value =>
        refine ⟨value, rfl, Option.eq_none_iff_forall_ne_some.mpr fun result converted => ?_⟩
        exact none ⟨result, by rw [source]; exact converted⟩

section Loading

variable {file : Option File} {environment : List (String × String)} {table : Table}

private theorem load_eq_ofLayers (read : file.elim (.ok []) File.layer = .ok table) :
    load file environment = ofLayers table (environmentLayer environment) := by
  cases file with
  | none =>
      cases read
      rfl
  | some file =>
      change file.layer = .ok table at read
      rw [load, read]

private theorem tidy_of_layer (read : file.elim (.ok []) File.layer = .ok table) : table.Tidy := by
  cases file with
  | none =>
      cases read
      exact ⟨distinct_nil, List.forall_mem_nil _⟩
  | some file =>
      change file.layer = .ok table at read
      rw [File.layer] at read
      split at read
      next => cases read
      next =>
        split at read
        next =>
          split at read
          next done =>
            cases read
            exact tidy_read done
          next => cases read
        next => cases read

private theorem load_eq_ok_iff (read : file.elim (.ok []) File.layer = .ok table)
    (flat : Flat table) (proper : Proper environment) (settings : Settings) :
    load file environment = .ok settings ↔
      (¬Blocked table environment ∧ ∀ setting : Setting,
        setting.resolve? (setting.source? table environment) = some (settings.get setting)) ∧
      settings.validate = .ok () := by
  rw [load_eq_ofLayers read, ofLayers_eq_ok_iff, ofTable?_layers flat (tidy_of_layer read) proper]

/-- Of a file that names its entries without quotes and has no arrays among them, and of an
environment whose variables give settings, none of them twice, the settings that are loaded are made
up one by one: each is what its text in the environment is converted to, else its value in the file,
else its default, whatever the others are. They are always valid. Loading fails if and only if the
value of some setting does not fit, or something else than a table stands where a section goes and
no variable makes room for it, or the settings made up in this way are not valid. -/
theorem load_layered (read : file.elim (.ok []) File.layer = .ok table) (flat : Flat table)
    (proper : Proper environment) :
    (∀ settings, load file environment = .ok settings →
      (∀ setting : Setting,
        setting.resolve? (setting.source? table environment) = some (settings.get setting)) ∧
      settings.validate = .ok () ∧ 1 ≤ settings.store.peers ∧
        1 ≤ settings.store.replicationFactor ∧ 1 ≤ settings.messaging.responseTimeoutMillis) ∧
    ((∃ failure, load file environment = .error failure) ↔
      (∃ (setting : Setting) (value : Toml), setting.source? table environment = some value ∧
        setting.convert value = none) ∨
      Blocked table environment ∨
      ∃ settings : Settings, (∀ setting : Setting,
        setting.resolve? (setting.source? table environment) = some (settings.get setting)) ∧
        settings.validate ≠ .ok ()) := by
  have loads := load_eq_ok_iff read flat proper
  refine ⟨fun settings loaded => ?_, ?_, ?_⟩
  · obtain ⟨⟨-, resolved⟩, valid⟩ := (loads settings).mp loaded
    exact ⟨resolved, valid, settings.validate_eq_ok_iff.mp valid⟩
  · rintro ⟨failure, failed⟩
    rcases exists_resolved_or fun setting => setting.source? table environment with
      ⟨settings, resolved⟩ | unfit
    · by_cases blocked : Blocked table environment
      · exact .inr (.inl blocked)
      · refine .inr (.inr ⟨settings, resolved, fun valid => ?_⟩)
        cases failed.symm.trans ((loads settings).mpr ⟨⟨blocked, resolved⟩, valid⟩)
    · exact .inl unfit
  · intro reason
    cases outcome : load file environment with
    | error failure => exact ⟨failure, rfl⟩
    | ok settings =>
        obtain ⟨⟨free, resolved⟩, valid⟩ := (loads settings).mp outcome
        rcases reason with ⟨setting, value, source, unfit⟩ | blocked | ⟨others, hasToo, invalid⟩
        · have fits := resolved setting
          rw [source] at fits
          cases unfit.symm.trans fits
        · exact absurd blocked free
        · exact absurd (eq_of_resolve? resolved hasToo ▸ valid) invalid

/-- The number of peers is the one of the environment, the latency is the one of the file beside
it, which is a text there, and the rest are defaults. -/
theorem load_layered_overridden :
    let file : File := ⟨"node.toml", some "[dht]\npeers = 2\nlatency_ms = \"20\"\n"⟩
    let table : Table := [("dht", .table [("peers", .integer 2), ("latency_ms", .string "20")])]
    let environment :=
      [("PATH", "/bin"), ("HIVESYNC_DHT__PEERS", "7"), ("hivesync_log_level", "debug")]
    let settings : Settings := { store := ⟨7, 3, 20⟩, logLevel := "debug" }
    (some file).elim (.ok []) File.layer = .ok table ∧ Flat table ∧ Proper environment ∧
      load (some file) environment = .ok settings ∧ 1 ≤ settings.store.peers ∧
      ∀ setting : Setting, setting.resolve? (setting.source? table environment) =
        some (settings.get setting) := by
  intro file table environment settings
  have read : (some file).elim (.ok []) File.layer = .ok table := by
    simp only [file, table]
    cbv
  have flat : Flat table := by
    refine List.forall_mem_singleton.mpr ⟨⟨by decide, by decide⟩, ?_⟩
    intro items same
    cases same
  have gives : given environment = [("dht.peers", "7"), ("log_level", "debug")] := by
    decide +kernel
  have proper : Proper environment := by
    refine ⟨?_, ?_⟩
    · rw [gives]
      exact List.forall_mem_cons.mpr
        ⟨⟨.peers, rfl⟩, List.forall_mem_singleton.mpr ⟨.logLevel, rfl⟩⟩
    · rw [gives, Distinct]
      decide
  have resolved (setting : Setting) : setting.resolve? (setting.source? table environment) =
      some (settings.get setting) := by
    rw [Setting.source?, gives]
    cases setting <;> rfl
  have free : ¬Blocked table environment := by
    rintro ⟨group, isGroup, value, found, isTable, -⟩
    simp only [List.mem_cons, List.not_mem_nil, or_false] at isGroup
    rcases isGroup with rfl | rfl | rfl <;> cases found
    cases isTable
  have loaded := (load_eq_ok_iff read flat proper settings).mpr ⟨⟨free, resolved⟩, rfl⟩
  obtain ⟨has, -, peers, -⟩ := (load_layered read flat proper).1 settings loaded
  exact ⟨read, flat, proper, loaded, peers, has⟩

end Loading

end Settings

end Quorate

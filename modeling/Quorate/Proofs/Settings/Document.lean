import Mathlib
import Quorate.Proofs.Store.Document
import Quorate.Settings.Document
import Quorate.Settings.Setting

/-!
Settings come back from the JSON text that they are written as. Where fields or whole sections have
been left out of it, exactly those have their defaults; members of other names make no difference,
neither beside the sections nor in them.
-/

namespace Quorate

open Json

namespace Settings

def namesOf? : String → Option (List String)
  | "write" => some ["max_put_retries"]
  | "messaging" => some ["response_timeout_ms"]
  | "dht" => some ["peers", "replication_factor", "latency_ms"]
  | _ => none

def names : List String := ["node_id", "write", "messaging", "dht", "log_level"]

/-- A section may be revised in its turn; a single value stays as it is. -/
def Changes (name : String) (old new : Json) : Prop :=
  match namesOf? name with
  | some names => RevisedRecord names (fun _ => Eq) old new
  | none => new = old

/-- Settings as JSON from which fields and sections may have been left out, and into which members
of other names may have been put, in sections too. -/
def RevisedJson : Json → Json → Prop := RevisedRecord names Changes

end Settings

/-! ### Sections -/

section Sections

variable {known : List String} {members others : List (String × Json)} {name : String} {json : Json}

private theorem decode_of_lookup (revised : Revised known (fun _ => Eq) members others)
    (distinct : (members.map Prod.fst).Nodup) (present : name ∈ known) {value : Json}
    (written : members.lookup name = some value) {α : Type} {decode : Json → Option α}
    {content : α} (decodes : decode value = some content) :
    ∀ json, others.lookup name = some json → decode json = some content := by
  intro json found
  have same : value = json := revised.of_lookup distinct present written found
  rw [← same]
  exact decodes

private theorem WriteSettings.ofJson?_revised (settings : WriteSettings)
    (revised : RevisedRecord ["max_put_retries"] (fun _ => Eq) settings.toJson json) :
    WriteSettings.ofJson? json =
      some ⟨if (json.at? ["max_put_retries"]).isSome then settings.maxPutRetries
        else ({} : WriteSettings).maxPutRetries⟩ := by
  obtain ⟨members, others, written, rfl, revised⟩ := revised
  obtain rfl := ofMembers_injective written
  have distinct : ["max_put_retries"].Nodup := by decide
  have retries : ∀ json, others.lookup "max_put_retries" = some json →
      json.asUInt32? = some settings.maxPutRetries :=
    decode_of_lookup revised distinct (by decide) rfl (asUInt32?_ofNat _)
  rw [WriteSettings.ofJson?, fields?_ofMembers (revised.single distinct)]
  simp only [List.map_cons, List.map_nil, at?_singleton]
  rw [optional_eq _ retries]
  rfl

private theorem MessagingSettings.ofJson?_revised (settings : MessagingSettings)
    (revised : RevisedRecord ["response_timeout_ms"] (fun _ => Eq) settings.toJson json) :
    MessagingSettings.ofJson? json =
      some ⟨if (json.at? ["response_timeout_ms"]).isSome then settings.responseTimeoutMillis
        else ({} : MessagingSettings).responseTimeoutMillis⟩ := by
  obtain ⟨members, others, written, rfl, revised⟩ := revised
  obtain rfl := ofMembers_injective written
  have distinct : ["response_timeout_ms"].Nodup := by decide
  have timeout : ∀ json, others.lookup "response_timeout_ms" = some json →
      json.asUInt64? = some settings.responseTimeoutMillis :=
    decode_of_lookup revised distinct (by decide) rfl (asUInt64?_ofNat _)
  rw [MessagingSettings.ofJson?, fields?_ofMembers (revised.single distinct)]
  simp only [List.map_cons, List.map_nil, at?_singleton]
  rw [optional_eq _ timeout]
  rfl

private theorem StoreSettings.ofJson?_revised (settings : StoreSettings)
    (revised : RevisedRecord ["peers", "replication_factor", "latency_ms"] (fun _ => Eq)
      settings.toJson json) :
    StoreSettings.ofJson? json =
      some ⟨if (json.at? ["peers"]).isSome then settings.peers else ({} : StoreSettings).peers,
        if (json.at? ["replication_factor"]).isSome then settings.replicationFactor
        else ({} : StoreSettings).replicationFactor,
        if (json.at? ["latency_ms"]).isSome then settings.latencyMillis
        else ({} : StoreSettings).latencyMillis⟩ := by
  obtain ⟨members, others, written, rfl, revised⟩ := revised
  obtain rfl := ofMembers_injective written
  have distinct : ["peers", "replication_factor", "latency_ms"].Nodup := by decide
  have peers : ∀ json, others.lookup "peers" = some json →
      json.asUInt64? = some settings.peers :=
    decode_of_lookup revised distinct (by decide) rfl (asUInt64?_ofNat _)
  have factor : ∀ json, others.lookup "replication_factor" = some json →
      json.asUInt64? = some settings.replicationFactor :=
    decode_of_lookup revised distinct (by decide) rfl (asUInt64?_ofNat _)
  have latency : ∀ json, others.lookup "latency_ms" = some json →
      json.asUInt64? = some settings.latencyMillis :=
    decode_of_lookup revised distinct (by decide) rfl (asUInt64?_ofNat _)
  rw [StoreSettings.ofJson?, fields?_ofMembers (revised.single distinct)]
  simp only [List.map_cons, List.map_nil, at?_singleton]
  rw [optional_eq _ peers, optional_eq _ factor, optional_eq _ latency]
  rfl

end Sections

/-! ### Settings -/

namespace Settings

/-- What is left out has its default, and what is put in makes no difference. -/
theorem ofJson?_revised (settings : Settings) {json : Json}
    (revised : RevisedJson settings.toJson json) :
    ofJson? json = some (settings.keeping fun setting => (json.at? setting.path).isSome) := by
  obtain ⟨members, others, written, rfl, revised⟩ := revised
  obtain rfl := ofMembers_injective written
  have distinct : names.Nodup := by decide
  have nodeId : ∀ json, others.lookup "node_id" = some json →
      json.asString? = some settings.nodeId := by
    intro json found
    have same : json = .ofString settings.nodeId :=
      revised.of_lookup distinct (by decide) rfl found
    rw [same, asString?_ofString]
  have logLevel : ∀ json, others.lookup "log_level" = some json →
      json.asString? = some settings.logLevel := by
    intro json found
    have same : json = .ofString settings.logLevel :=
      revised.of_lookup distinct (by decide) rfl found
    rw [same, asString?_ofString]
  let left := settings.keeping fun setting => ((ofMembers others).at? setting.path).isSome
  have write : Json.optional ({} : Settings).write WriteSettings.ofJson? (others.lookup "write") =
      some left.write := by
    change _ = some (WriteSettings.mk
      (if ((ofMembers others).at? ["write", "max_put_retries"]).isSome then _ else _))
    rw [at?_ofMembers]
    cases found : others.lookup "write" with
    | none => rfl
    | some new =>
        exact WriteSettings.ofJson?_revised settings.write
          (revised.of_lookup distinct (by decide) rfl found)
  have messaging : Json.optional ({} : Settings).messaging MessagingSettings.ofJson?
      (others.lookup "messaging") = some left.messaging := by
    change _ = some (MessagingSettings.mk
      (if ((ofMembers others).at? ["messaging", "response_timeout_ms"]).isSome then _ else _))
    rw [at?_ofMembers]
    cases found : others.lookup "messaging" with
    | none => rfl
    | some new =>
        exact MessagingSettings.ofJson?_revised settings.messaging
          (revised.of_lookup distinct (by decide) rfl found)
  have store : Json.optional ({} : Settings).store StoreSettings.ofJson? (others.lookup "dht") =
      some left.store := by
    change _ = some (StoreSettings.mk
      (if ((ofMembers others).at? ["dht", "peers"]).isSome then _ else _)
      (if ((ofMembers others).at? ["dht", "replication_factor"]).isSome then _ else _)
      (if ((ofMembers others).at? ["dht", "latency_ms"]).isSome then _ else _))
    simp only [at?_ofMembers]
    cases found : others.lookup "dht" with
    | none => rfl
    | some new =>
        exact StoreSettings.ofJson?_revised settings.store
          (revised.of_lookup distinct (by decide) rfl found)
  have fields : (ofMembers others).fields? names =
      some (names.map fun name => others.lookup name) :=
    fields?_ofMembers (revised.single distinct)
  unfold names at fields
  rw [ofJson?, fields]
  simp only [List.map_cons, List.map_nil]
  rw [optional_eq _ nodeId, write, messaging, store, optional_eq _ logLevel, ← at?_singleton,
    ← at?_singleton]
  rfl

/-- The settings as JSON without those that are not kept; all sections stay, if need be empty. -/
def partJson (settings : Settings) (kept : Setting → Bool) : Json :=
  ofMembers
    (whenever (kept .nodeId) "node_id" (.ofString settings.nodeId) ++
      ([("write", ofMembers (whenever (kept .maxPutRetries) "max_put_retries"
          (.ofNat settings.write.maxPutRetries.toNat))),
        ("messaging", ofMembers (whenever (kept .responseTimeout) "response_timeout_ms"
          (.ofNat settings.messaging.responseTimeoutMillis.toNat))),
        ("dht", ofMembers
          (whenever (kept .peers) "peers" (.ofNat settings.store.peers.toNat) ++
            (whenever (kept .replicationFactor) "replication_factor"
              (.ofNat settings.store.replicationFactor.toNat) ++
            whenever (kept .latency) "latency_ms" (.ofNat settings.store.latencyMillis.toNat))))] ++
      whenever (kept .logLevel) "log_level" (.ofString settings.logLevel)))

private theorem partJson_all (settings : Settings) :
    settings.partJson (fun _ => true) = settings.toJson := rfl

private theorem revisedJson_partJson (settings : Settings) (kept : Setting → Bool) :
    RevisedJson settings.toJson (settings.partJson kept) := by
  have write : Changes "write" settings.write.toJson _ :=
    ⟨_, _, rfl, rfl, .whenever rfl (kept .maxPutRetries)⟩
  have messaging : Changes "messaging" settings.messaging.toJson _ :=
    ⟨_, _, rfl, rfl, .whenever rfl (kept .responseTimeout)⟩
  have store : Changes "dht" settings.store.toJson _ :=
    ⟨_, _, rfl, rfl, (Revised.whenever rfl (kept .peers)).append
      ((Revised.whenever rfl (kept .replicationFactor)).append (.whenever rfl (kept .latency)))⟩
  exact ⟨_, _, rfl, rfl, (Revised.whenever rfl (kept .nodeId)).append
    (.kept "write" write (.kept "messaging" messaging (.kept "dht" store
      (.whenever rfl (kept .logLevel)))))⟩

private theorem at?_partJson (settings : Settings) (kept : Setting → Bool) (setting : Setting) :
    ((settings.partJson kept).at? setting.path).isSome = kept setting := by
  have isSome (stays : Bool) (value : Json) :
      (if stays = true then some value else none).isSome = stays := by
    cases stays <;> rfl
  cases setting <;>
    simp [partJson, Setting.path, Setting.section?, Setting.key, at?, at?_ofMembers,
      lookup_whenever_append, lookup_whenever, List.lookup_cons, isSome]

private theorem ofJson?_toJson (settings : Settings) : ofJson? settings.toJson = some settings := by
  rw [← partJson_all, ofJson?_revised settings (settings.revisedJson_partJson _)]
  simp only [at?_partJson]
  rfl

private theorem sound_partJson (settings : Settings) (kept : Setting → Bool) :
    (settings.partJson kept).Sound := by
  have field (stays : Bool) (name : String) (number : Nat) :
      ∀ member ∈ whenever stays name (.ofNat number), member.2.Sound :=
    sound_whenever stays name (sound_ofNat number)
  have word (stays : Bool) (name content : String) :
      ∀ member ∈ whenever stays name (.ofString content), member.2.Sound :=
    sound_whenever stays name (sound_ofString content)
  refine sound_ofMembers ?_
  simp only [List.forall_mem_append, List.forall_mem_cons]
  refine ⟨word _ _ _, ⟨sound_ofMembers (field _ _ _), sound_ofMembers (field _ _ _),
    sound_ofMembers ?_, List.forall_mem_nil _⟩, word _ _ _⟩
  simp only [List.forall_mem_append]
  exact ⟨field _ _ _, field _ _ _, field _ _ _⟩

private theorem codec_faithful : codec.Faithful :=
  .of (fun settings => settings.sound_partJson fun _ => true) ofJson?_toJson

end Settings

/-- Peers, version keys, statuses and settings come back from their JSON text, whatever their texts
and numbers are, and so does everything that any text is read as. Settings are still read from any
text of an object that has been revised: what has been left out, fields or whole sections, has its
default, everything else its value, and what has been put in makes no difference. Any settings may
be left out together, and there is a text of every revised object, for all values of JSON are read
as they are printed. -/
theorem documents_faithful :
    Peer.codec.Faithful ∧ Store.VersionKey.codec.Faithful ∧ Store.Status.codec.Faithful ∧
      Settings.codec.Faithful ∧
      (∀ (settings : Settings) (json : Json), Settings.RevisedJson settings.toJson json →
        ∀ text, Json.read text = some json →
          Settings.codec.decode? text =
            some (settings.keeping fun setting => (json.at? setting.path).isSome)) ∧
      (∀ (settings : Settings) (kept : Setting → Bool), ∃ json : Json, json.Sound ∧
        Settings.RevisedJson settings.toJson json ∧
          ∀ setting : Setting, (json.at? setting.path).isSome = kept setting) ∧
      ∀ json : Json, json.Sound → Json.read json.print = some json := by
  refine ⟨Peer.codec_faithful, Store.VersionKey.codec_faithful, Store.Status.codec_faithful,
    Settings.codec_faithful, ?_, fun settings kept => ?_, fun json sound => read_print sound⟩
  · intro settings json revised text read
    rw [Codec.decode?, read]
    exact settings.ofJson?_revised revised
  · exact ⟨settings.partJson kept, settings.sound_partJson kept,
      settings.revisedJson_partJson kept, settings.at?_partJson kept⟩

/-- Two sections and a name are left out; a name of the third section is put into the second, where
it is none, and blanks and an escape make the text another one than would be printed. -/
theorem documents_faithful_revised :
    let settings : Settings :=
      { nodeId := "n", write := ⟨7⟩, messaging := ⟨5⟩, store := ⟨4, 2, 9⟩, logLevel := "warn" }
    let text := Text.braced (" \"write\":" ++
      Text.braced "\"peers\":[1.5e3],\"max_put_retries\":7" ++ ",\"log_level\":\"w\\u0061rn\"")
    let json : Json := ofMembers
      [("write", ofMembers [("peers", .array [.number ['1', '.', '5', 'e', '3']]),
        ("max_put_retries", ofNat 7)]), ("log_level", ofString "warn")]
    Settings.RevisedJson settings.toJson json ∧ Json.read text = some json ∧
      Settings.codec.decode? text = some { write := ⟨7⟩, logLevel := "warn" } := by
  intro settings text json
  have revised : Settings.RevisedJson settings.toJson json := by
    refine ⟨_, _, rfl, rfl, .removed _ (.kept "write" ?_ (.removed _ (.removed _
      (.kept "log_level" rfl .none))))⟩
    exact ⟨_, _, rfl, rfl, .added "peers" _ (by decide) (.kept "max_put_retries" rfl .none)⟩
  have read : Json.read text = some json := by
    simp only [text, json]
    cbv
  have left : settings.keeping (fun setting => (json.at? setting.path).isSome) =
      { write := ⟨7⟩, logLevel := "warn" } := by decide +kernel
  obtain ⟨-, -, -, -, decode, -⟩ := documents_faithful
  exact ⟨revised, read, (decode settings json revised text read).trans (congrArg some left)⟩

end Quorate

import Quorate.Proofs.Json.Record
import Quorate.Store.Document

/-!
Peers, version keys and statuses come back from the JSON text that they are written as.
-/

namespace Quorate

open Json

theorem Peer.codec_faithful : Peer.codec.Faithful :=
  .of (fun peer => sound_ofString peer.name) fun _ => rfl

namespace Store

private theorem VersionKey.ofJson?_toJson (key : VersionKey) :
    VersionKey.ofJson? key.toJson = some key := by
  have fields : key.toJson.fields? ["location_key", "content_key", "version"] =
      some [some (.ofString key.location), some (.ofString key.content),
        some (.ofNat key.version.toNat)] := by
    have distinct : ["location_key", "content_key", "version"].Nodup := by decide
    rw [VersionKey.toJson, fields?_ofMembers]
    · rfl
    · exact fun name _ => List.nodup_iff_count_le_one.mp distinct name
  rw [VersionKey.ofJson?, fields]
  simp only [Json.required, Option.bind_some, asString?_ofString, asUInt64?_ofNat,
    Option.bind_eq_bind]
  rfl

theorem VersionKey.codec_faithful : VersionKey.codec.Faithful :=
  .of (fun _ => sound_ofMembers (by simp)) VersionKey.ofJson?_toJson

private theorem Status.ofJson?_toJson (status : Status) :
    Status.ofJson? status.toJson = some status := by
  cases status with
  | unknown code =>
      simp only [Status.toJson, ofMembers, List.map_cons, List.map_nil, Status.ofJson?, if_true,
        asUInt8?_ofNat, Option.map_some]
  | _ => decide

theorem Status.codec_faithful : Status.codec.Faithful := by
  refine .of ?_ Status.ofJson?_toJson
  intro status
  cases status with
  | unknown code => exact sound_ofMembers (by simp)
  | _ => exact sound_ofString _

end Store
end Quorate

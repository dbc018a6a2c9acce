import Quorate.Json.Record
import Quorate.Peer
import Quorate.Store.Status
import Quorate.Store.Version

/-!
Peers, version keys and statuses as JSON values, and back.
-/

namespace Quorate

def Peer.toJson (peer : Peer) : Json := .ofString peer.name

def Peer.ofJson? (json : Json) : Option Peer := json.asString?.map Peer.mk

def Peer.codec : Json.Codec Peer := ⟨Peer.toJson, Peer.ofJson?⟩

namespace Store

def VersionKey.toJson (key : VersionKey) : Json :=
  .ofMembers
    [("location_key", .ofString key.location), ("content_key", .ofString key.content),
     ("version", .ofNat key.version.toNat)]

def VersionKey.ofJson? (json : Json) : Option VersionKey :=
  match json.fields? ["location_key", "content_key", "version"] with
  | some [location, content, version] => do
      let location ← Json.required Json.asString? location
      let content ← Json.required Json.asString? content
      let version ← Json.required Json.asUInt64? version
      pure ⟨location, content, version⟩
  | _ => none

def VersionKey.codec : Json.Codec VersionKey := ⟨VersionKey.toJson, VersionKey.ofJson?⟩

/-- A named status is its name; any other is an object from the word Unknown to its code. -/
def Status.toJson : Status → Json
  | .unknown code => .ofMembers [("Unknown", .ofNat code.toNat)]
  | status => .ofString status.name

/-- A named status may also be written as an object from its name to null. -/
def Status.ofJson? : Json → Option Status
  | .string (some name) => Status.ofName? name
  | .object [(some name, value)] =>
      if name = "Unknown" then value.asUInt8?.map Status.unknown
      else
        match value with
        | .null => Status.ofName? name
        | _ => none
  | _ => none

def Status.codec : Json.Codec Status := ⟨Status.toJson, Status.ofJson?⟩

end Store
end Quorate

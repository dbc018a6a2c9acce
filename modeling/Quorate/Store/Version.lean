import Quorate.Hash.Blake3

/-!
What is stored and how it is named: version keys, and requests to write one version.
-/

namespace Quorate.Store

structure VersionKey where
  location : String
  content : String
  version : UInt64
deriving DecidableEq, Repr

namespace VersionKey

def text (key : VersionKey) : String :=
  key.location ++ "/" ++ key.content ++ "@" ++ Text.decimalText key.version.toNat

/-- By location, then content, then version. -/
def before (left right : VersionKey) : Bool :=
  if left.location = right.location then
    if left.content = right.content then decide (left.version ≤ right.version)
    else decide (left.content ≤ right.content)
  else decide (left.location ≤ right.location)

def sort (keys : List VersionKey) : List VersionKey := keys.mergeSort before

end VersionKey

structure Request where
  location : String
  content : String
  version : UInt64 := 0
  basedOn : Option UInt64 := none
  value : List UInt8 := []
deriving DecidableEq, Repr

namespace Request

def versionKey (request : Request) : VersionKey :=
  ⟨request.location, request.content, request.version⟩

def text (request : Request) : String :=
  "location = '" ++ request.location ++ "', content = '" ++ request.content
    ++ "', version = " ++ Text.decimalText request.version.toNat
    ++ ", digest = " ++ Hash.shortDigest request.value
    ++ match request.basedOn with
      | none => ""
      | some version => ", based_on = " ++ Text.decimalText version.toNat

end Request
end Quorate.Store

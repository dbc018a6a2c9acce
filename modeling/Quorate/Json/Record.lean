import Quorate.Json.Printer
import Quorate.Json.Reader

/-!
Values of a type as JSON text, and back, and the decoding of records. A record is written as an
object, whose unknown members do not count and whose known members occur at most once, or as an
array of its fields in order, cut short where the rest is absent.
-/

namespace Quorate.Json

structure Codec (α : Type) where
  toJson : α → Json
  ofJson? : Json → Option α

namespace Codec

variable {α : Type}

def encode (codec : Codec α) (value : α) : String := (codec.toJson value).print

def decode? (codec : Codec α) (text : String) : Option α := (Json.read text).bind codec.ofJson?

end Codec

def asString? : Json → Option String
  | .string content => content
  | _ => none

/-- A whole number below the bound. A numeral with a sign, a point or an exponent is none. -/
def asNatBelow? (bound : Nat) : Json → Option Nat
  | .number numeral => Text.readDecimalBelow bound numeral
  | _ => none

def asUInt8? (json : Json) : Option UInt8 := (json.asNatBelow? UInt8.size).map UInt8.ofNat

def asUInt32? (json : Json) : Option UInt32 := (json.asNatBelow? UInt32.size).map UInt32.ofNat

def asUInt64? (json : Json) : Option UInt64 := (json.asNatBelow? UInt64.size).map UInt64.ofNat

def membersNamed (members : List (Option String × Json)) (name : String) : List Json :=
  members.filterMap fun member => if member.1 = some name then some member.2 else none

/-- The values of one field: outer `none` for a repeated member, inner `none` for an absent one. -/
def memberNamed? (members : List (Option String × Json)) (name : String) : Option (Option Json) :=
  match membersNamed members name with
  | [] => some none
  | [value] => some (some value)
  | _ :: _ :: _ => none

def fields? (names : List String) : Json → Option (List (Option Json))
  | .object members =>
      if members.any fun member => member.1.isNone then none
      else names.mapM (memberNamed? members)
  | .array items =>
      if names.length < items.length then none
      else some (items.map some ++ List.replicate (names.length - items.length) none)
  | _ => none

def required {α : Type} (decode : Json → Option α) (field : Option Json) : Option α :=
  field.bind decode

def optional {α : Type} (default : α) (decode : Json → Option α) (field : Option Json) : Option α :=
  match field with
  | none => some default
  | some value => decode value

end Quorate.Json

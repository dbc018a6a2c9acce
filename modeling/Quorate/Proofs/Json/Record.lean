import Mathlib.Data.List.Nodup
import Quorate.Association
import Quorate.Json.Record
import Quorate.Proofs.Json.RoundTrip

/-!
Objects that are read as records. Only members of known names have a say, wherever they stand, and
each of them speaks for itself: what becomes of a record is decided member by member when members
are left out, when their values change, and when members of other names are put in.
-/

namespace Quorate.Json

variable {members others : List (String × Json)} {known : List String}

/-! ### Members by name -/

private theorem lookup_ofMembers (members : List (String × Json)) (name : String) :
    (members.map fun member => (some member.1, member.2)).lookup (some name) =
      members.lookup name := by
  induction members with
  | nil => rfl
  | cons member members ih =>
      obtain ⟨other, value⟩ := member
      rw [List.map_cons, List.lookup_cons, List.lookup_cons, ih]
      rfl

private theorem membersNamed_ofMembers (members : List (String × Json)) (name : String) :
    membersNamed (members.map fun member => (some member.1, member.2)) name =
      (members.filter fun member => member.1 = name).map Prod.snd := by
  induction members with
  | nil => rfl
  | cons member members ih =>
      unfold membersNamed at ih ⊢
      rw [List.map_cons, List.filterMap_cons, ih]
      by_cases same : member.1 = name <;> simp [same]

private theorem lookup_eq_head? (members : List (String × Json)) (name : String) :
    members.lookup name = ((members.filter fun member => member.1 = name).map Prod.snd).head? := by
  induction members with
  | nil => rfl
  | cons member members ih =>
      obtain ⟨other, value⟩ := member
      rw [List.lookup_cons, ih]
      by_cases same : other = name
      · simp [same]
      · have differs : (name == other) = false := by simpa using fun equal => same equal.symm
        simp [same, differs]

private theorem memberNamed?_ofMembers {name : String}
    (single : (members.map Prod.fst).count name ≤ 1) :
    memberNamed? (members.map fun member => (some member.1, member.2)) name =
      some (members.lookup name) := by
  have length : ((members.filter fun member => member.1 = name).map Prod.snd).length ≤ 1 := by
    rw [List.length_map, ← List.countP_eq_length_filter]
    rwa [List.count, List.countP_map] at single
  rw [memberNamed?, membersNamed_ofMembers, lookup_eq_head?]
  generalize (members.filter fun member => member.1 = name).map Prod.snd = found at length
  match found, length with
  | [], _ => rfl
  | [value], _ => rfl

/-- A record none of whose fields is written twice has the fields that its object names. -/
theorem fields?_ofMembers {names : List String}
    (single : ∀ name ∈ names, (members.map Prod.fst).count name ≤ 1) :
    (ofMembers members).fields? names = some (names.map fun name => members.lookup name) := by
  have named : ((members.map fun member => (some member.1, member.2)).any fun member =>
      member.1.isNone) = false := by
    simp
  rw [ofMembers, fields?, named, if_neg Bool.false_ne_true]
  induction names with
  | nil => rfl
  | cons name names ih =>
      rw [List.mapM_cons, memberNamed?_ofMembers (single name List.mem_cons_self),
        ih fun other present => single other (List.mem_cons_of_mem name present)]
      rfl

/-- What a path of names leads to in objects that lie in one another. -/
def at? : List String → Json → Option Json
  | [], json => some json
  | name :: path, .object members => (members.lookup (some name)).bind (at? path)
  | _ :: _, _ => none

theorem at?_ofMembers (members : List (String × Json)) (name : String) (path : List String) :
    (ofMembers members).at? (name :: path) = (members.lookup name).bind (at? path) := by
  rw [ofMembers, at?, lookup_ofMembers]

theorem at?_singleton (members : List (String × Json)) (name : String) :
    (ofMembers members).at? [name] = members.lookup name := by
  rw [at?_ofMembers]
  cases members.lookup name <;> rfl

theorem ofMembers_injective : Function.Injective ofMembers := by
  intro members others same
  have mapped := Json.object.inj same
  have apart : Function.Injective fun member : String × Json => (some member.1, member.2) := by
    intro member other equal
    obtain ⟨name, value⟩ := Prod.mk.inj equal
    exact Prod.ext (Option.some.inj name) value
  exact List.map_injective_iff.mpr apart mapped

/-! ### Revised objects -/

/-- The members of an object after some have been left out, members that are none of the known ones
have been put in anywhere, and the values of the others have changed as they may. -/
inductive Revised (known : List String) (changes : String → Json → Json → Prop) :
    List (String × Json) → List (String × Json) → Prop
  | none : Revised known changes [] []
  | kept {members others : List (String × Json)} (name : String) {old new : Json}
      (change : changes name old new) (rest : Revised known changes members others) :
      Revised known changes ((name, old) :: members) ((name, new) :: others)
  | removed {members others : List (String × Json)} (member : String × Json)
      (rest : Revised known changes members others) :
      Revised known changes (member :: members) others
  | added {members others : List (String × Json)} (name : String) (value : Json)
      (unknown : name ∉ known) (rest : Revised known changes members others) :
      Revised known changes members ((name, value) :: others)

def whenever (stays : Bool) (name : String) (value : Json) : List (String × Json) :=
  if stays then [(name, value)] else []

theorem lookup_whenever_append (stays : Bool) (name : String) (value : Json)
    (rest : List (String × Json)) (query : String) :
    (whenever stays name value ++ rest).lookup query =
      if stays ∧ query = name then some value else rest.lookup query := by
  cases stays with
  | true =>
      by_cases same : query = name
      · simp [whenever, same]
      · simp [whenever, List.lookup_cons, same, beq_false_of_ne same]
  | false => simp [whenever]

theorem lookup_whenever (stays : Bool) (name : String) (value : Json) (query : String) :
    (whenever stays name value).lookup query =
      if stays ∧ query = name then some value else none := by
  rw [← List.append_nil (whenever stays name value), lookup_whenever_append]
  rfl

theorem sound_whenever (stays : Bool) (name : String) {value : Json} (sound : value.Sound) :
    ∀ member ∈ whenever stays name value, member.2.Sound := by
  cases stays with
  | true => exact List.forall_mem_singleton.mpr sound
  | false => exact List.forall_mem_nil _

def RevisedRecord (known : List String) (changes : String → Json → Json → Prop)
    (json other : Json) : Prop :=
  ∃ members others, json = ofMembers members ∧ other = ofMembers others ∧
    Revised known changes members others

section Revised

variable {changes : String → Json → Json → Prop} {name : String}

theorem Revised.append {front back fronts backs : List (String × Json)}
    (first : Revised known changes front fronts) (second : Revised known changes back backs) :
    Revised known changes (front ++ back) (fronts ++ backs) := by
  induction first with
  | none => exact second
  | kept name change _ ih => exact .kept name change ih
  | removed member _ ih => exact .removed member ih
  | added name value unknown _ ih => exact .added name value unknown ih

theorem Revised.whenever {value : Json} (still : changes name value value) (stays : Bool) :
    Revised known changes [(name, value)] (whenever stays name value) := by
  cases stays with
  | true => exact .kept name still .none
  | false => exact .removed _ .none

private theorem Revised.count_le (revised : Revised known changes members others)
    (present : name ∈ known) :
    (others.map Prod.fst).count name ≤ (members.map Prod.fst).count name := by
  induction revised with
  | none => exact Nat.le_refl _
  | kept other change rest ih =>
      rw [List.map_cons, List.map_cons, List.count_cons, List.count_cons]
      exact Nat.add_le_add_right ih _
  | removed member rest ih =>
      rw [List.map_cons, List.count_cons]
      exact Nat.le_trans ih (Nat.le_add_right _ _)
  | added other value unknown rest ih =>
      have differs : other ≠ name := fun same => unknown (same ▸ present)
      rw [List.map_cons, List.count_cons_of_ne differs]
      exact ih

theorem Revised.single (revised : Revised known changes members others)
    (distinct : (members.map Prod.fst).Nodup) :
    ∀ name ∈ known, (others.map Prod.fst).count name ≤ 1 := fun name present =>
  Nat.le_trans (revised.count_le present) (List.nodup_iff_count_le_one.mp distinct name)

/-- A known member is left out, or it is there with a value that has come of its own. -/
theorem Revised.lookup (revised : Revised known changes members others)
    (distinct : (members.map Prod.fst).Nodup) (present : name ∈ known) :
    others.lookup name = .none ∨ ∃ old new, members.lookup name = some old ∧
      changes name old new ∧ others.lookup name = some new := by
  induction revised with
  | none => exact .inl rfl
  | kept other change rest ih =>
      rw [List.map_cons, List.nodup_cons] at distinct
      rw [List.lookup_cons, List.lookup_cons]
      cases same : name == other with
      | true =>
          obtain rfl := beq_iff_eq.mp same
          exact .inr ⟨_, _, rfl, change, rfl⟩
      | false => exact ih distinct.2
  | removed member rest ih =>
      obtain ⟨other, value⟩ := member
      rw [List.map_cons, List.nodup_cons] at distinct
      rcases ih distinct.2 with gone | ⟨old, new, found, change, stays⟩
      · exact .inl gone
      · have differs : (name == other) = false := by
          rw [beq_eq_false_iff_ne]
          rintro rfl
          exact distinct.1 (List.mem_map.mpr ⟨_, Association.mem_of_lookup_eq_some found, rfl⟩)
        refine .inr ⟨old, new, ?_, change, stays⟩
        rw [List.lookup_cons, differs]
        exact found
  | added other value unknown rest ih =>
      have differs : (name == other) = false := by
        rw [beq_eq_false_iff_ne]
        rintro rfl
        exact unknown present
      rw [List.lookup_cons, differs]
      exact ih distinct

theorem Revised.of_lookup (revised : Revised known changes members others)
    (distinct : (members.map Prod.fst).Nodup) (present : name ∈ known) {old new : Json}
    (written : members.lookup name = some old) (found : others.lookup name = some new) :
    changes name old new := by
  rcases revised.lookup distinct present with gone | ⟨before, after, known, change, there⟩
  · rw [gone] at found
    cases found
  · rw [written] at known
    rw [found] at there
    cases known
    cases there
    exact change

end Revised

/-! ### Fields -/

theorem asString?_ofString (content : String) : (ofString content).asString? = some content := rfl

private theorem asNatBelow?_ofNat {bound number : Nat} (small : number < bound) :
    (ofNat number).asNatBelow? bound = some number := by
  rw [ofNat, asNatBelow?, Text.readDecimalBelow_eq_some_iff]
  exact ⟨Text.digits_decimal number, Text.decimalValue_decimal number, small⟩

theorem asUInt8?_ofNat (number : UInt8) : (ofNat number.toNat).asUInt8? = some number := by
  rw [asUInt8?, asNatBelow?_ofNat number.toNat_lt, Option.map_some, UInt8.ofNat_toNat]

theorem asUInt32?_ofNat (number : UInt32) : (ofNat number.toNat).asUInt32? = some number := by
  rw [asUInt32?, asNatBelow?_ofNat number.toNat_lt, Option.map_some, UInt32.ofNat_toNat]

theorem asUInt64?_ofNat (number : UInt64) : (ofNat number.toNat).asUInt64? = some number := by
  rw [asUInt64?, asNatBelow?_ofNat number.toNat_lt, Option.map_some, UInt64.ofNat_toNat]

theorem optional_eq {α : Type} {decode : Json → Option α} {value : α} (default : α)
    {field : Option Json} (given : ∀ json, field = some json → decode json = some value) :
    optional default decode field = some (if field.isSome then value else default) := by
  cases field with
  | none => rfl
  | some json => exact given json rfl

/-! ### Codecs -/

namespace Codec

variable {α : Type} (codec : Codec α)

/-- Every value is read back from its text, and every text that is read as a value settles: its
value is read back as well. -/
def Faithful : Prop :=
  (∀ value, codec.decode? (codec.encode value) = some value) ∧
    ∀ text value, codec.decode? text = some value →
      codec.decode? (codec.encode value) = codec.decode? text

variable {codec}

theorem Faithful.of (sound : ∀ value, (codec.toJson value).Sound)
    (inverse : ∀ value, codec.ofJson? (codec.toJson value) = some value) : codec.Faithful := by
  have back (value : α) : codec.decode? (codec.encode value) = some value := by
    rw [encode, decode?, read_print (sound value)]
    exact inverse value
  refine ⟨back, ?_⟩
  intro text value decoded
  rw [back, decoded]

end Codec
end Quorate.Json

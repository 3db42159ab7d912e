import Mathlib.Logic.Basic
import Mathlib.Tactic.SplitIfs
import TableLoad.Proofs.Json.Weights
import TableLoad.Proofs.Schema.Header

/-!
# Spellings of headers

A header may be spelled in many ways: with blanks and escapes, with lists in
place of objects, with members that nobody asked for.  The header that is written
for the schema nests no deeper than any of them and is at most eight times as
long.
-/

set_option autoImplicit false

namespace TableLoad

namespace Json

/-- The document opens no more than `room` levels and takes no more than eight
bytes for each byte of `cost`. -/
structure Within (room cost : Nat) (json : Json) : Prop where
  levels : json.openLevels ≤ room
  bytes : json.render.length ≤ 8 * cost

theorem Within.mono {room cost more dearer : Nat} {json : Json} (within : Within room cost json)
    (levels : room ≤ more) (bytes : cost ≤ dearer) : Within more dearer json :=
  ⟨Nat.le_trans within.levels levels, Nat.le_trans within.bytes (Nat.mul_le_mul_left 8 bytes)⟩

/-! ## Parts -/

theorem membersWeight_filter (keep : Option String × Json → Bool)
    (members : List (Option String × Json)) :
    membersWeight (members.filter keep) + membersWeight (members.filter fun m => !keep m) =
      membersWeight members := by
  induction members with
  | nil => rfl
  | cons member rest ih =>
    obtain ⟨key, item⟩ := member
    cases kept : keep (key, item) with
    | true =>
      simp only [List.filter_cons, kept, Bool.not_true, if_true, Bool.false_eq_true, if_false,
        membersWeight]
      omega
    | false =>
      simp only [List.filter_cons, kept, Bool.not_false, if_true, Bool.false_eq_true, if_false,
        membersWeight]
      omega

def without (name : String) (members : List (Option String × Json)) :
    List (Option String × Json) :=
  members.filter fun member => !decide (member.1 = some name)

theorem uniqueMember_weight (name : String) (members : List (Option String × Json)) (part : Json) :
    uniqueMember? name members = some part →
      weight part + membersWeight (without name members) ≤ membersWeight members := by
  intro found
  have split := membersWeight_filter (fun member => decide (member.1 = some name)) members
  unfold uniqueMember? at found
  split at found
  · rename_i key inside only
    cases found
    rw [only] at split
    simp only [membersWeight] at split
    unfold without
    omega
  · cases found

theorem uniqueMember_without (name other : String) (members : List (Option String × Json)) :
    other ≠ name → uniqueMember? other (without name members) = uniqueMember? other members := by
  intro different
  have same : (without name members).filter (fun member => member.1 = some other) =
      members.filter fun member => member.1 = some other := by
    rw [without, List.filter_filter]
    apply List.filter_congr
    intro member _
    by_cases named : member.1 = some other
    · simp [named, different]
    · simp [named]
  rw [uniqueMember?, same, uniqueMember?]

theorem membersParts_weight (members : List (Option String × Json)) (names : List String) :
    ∀ left parts, names.Nodup →
      (∀ name ∈ names, uniqueMember? name left = uniqueMember? name members) →
      names.mapM (uniqueMember? · members) = some parts →
        itemsWeight parts ≤ membersWeight left := by
  induction names with
  | nil =>
    intro left parts _ _ found
    cases found
    exact Nat.zero_le _
  | cons name names ih =>
    intro left parts distinct same found
    obtain ⟨fresh, others⟩ := List.nodup_cons.mp distinct
    simp only [List.mapM_cons, Option.bind_eq_bind, Option.bind_eq_some_iff] at found
    obtain ⟨part, first, more, later, whole⟩ := found
    cases whole
    have front := uniqueMember_weight name left part ((same name List.mem_cons_self).trans first)
    have rest := ih (without name left) more others ?_ later
    · rw [itemsWeight]
      omega
    · intro other member
      have different : other ≠ name := fun equal => fresh (equal ▸ member)
      rw [uniqueMember_without name other left different]
      exact same other (List.mem_cons_of_mem name member)

theorem parts_weight (names : List String) (json : Json) (parts : List Json) :
    names.Nodup → json.parts? names = some parts → itemsWeight parts + 2 ≤ weight json := by
  intro distinct found
  unfold parts? at found
  split at found
  · rename_i members
    split at found
    · have inside := membersParts_weight members names members parts distinct
        (fun _ _ => rfl) found
      rw [weight]
      omega
    · cases found
  · split at found
    · cases found
      exact Nat.le_refl _
    · cases found
  · cases found

theorem asBool_weight (json : Json) (b : Bool) : json.asBool? = some b → weight json = 4 := by
  intro found
  cases json with
  | bool _ => rfl
  | _ => cases found

theorem asText_weight (json : Json) (text : String) :
    json.asText? = some text → weight json = (Utf8.encode text).length + 2 := by
  intro found
  cases json with
  | string written =>
    cases written with
    | none => cases found
    | some other =>
      cases found
      rfl
  | _ => cases found

theorem asByte_weight (json : Json) (b : UInt8) : json.asByte? = some b → weight json = 1 := by
  intro found
  cases json with
  | number _ => rfl
  | _ => cases found

/-! ## Sizes of what is written -/

theorem escapeByte_le (b : UInt8) : (escapeByte b).length ≤ 6 := by
  unfold escapeByte
  split_ifs <;> simp

theorem renderString_le (text : String) :
    (renderString text).length ≤ 6 * (Utf8.encode text).length + 2 := by
  have escaped : ∀ bytes : List UInt8, (bytes.flatMap escapeByte).length ≤ 6 * bytes.length := by
    intro bytes
    induction bytes with
    | nil => exact Nat.le_refl 0
    | cons b rest ih =>
      have one := escapeByte_le b
      rw [List.flatMap_cons, List.length_append, List.length_cons]
      omega
  have inside := escaped (Utf8.encode text)
  simp only [renderString, List.length_append, List.length_cons, List.length_nil]
  omega

theorem digits_le (n : Nat) (small : n < 256) : (Digits.ofNat n).length ≤ 3 := by
  by_cases one : n < 10
  · rw [Digits.ofNat_small n one, List.length_singleton]
    omega
  · rw [Digits.ofNat_large n (by omega)]
    by_cases two : n / 10 < 10
    · rw [Digits.ofNat_small _ two]
      exact Nat.le_succ 2
    · rw [Digits.ofNat_large _ (by omega), Digits.ofNat_small _ (by omega)]
      exact Nat.le_refl 3

theorem renderByte_le (b : UInt8) : (render (.number (.ofNat b.toNat))).length ≤ 3 := by
  have digits := digits_le b.toNat b.toNat_lt
  simpa [render, renderNumeral, Numeral.ofNat, bytesOf] using digits

end Json

namespace DataType

open Json

theorem toJson_of_name (name : String) (kind : Atom) :
    Atom.ofName? name = some kind → kind.toJson = .ofText name := by
  intro named
  unfold Atom.ofName? at named
  -- One name after the other, each the name that is written for its type.
  repeat
    replace named := ite_eq_iff.mp named
    obtain ⟨rfl, found⟩ | ⟨_, named⟩ := named
    · cases found
      rfl
  cases named

theorem within_text (room : Nat) (text : String) :
    Within room ((Utf8.encode text).length + 2) (.ofText text) := by
  have bytes := renderString_le text
  refine ⟨Nat.zero_le room, ?_⟩
  simp only [Json.ofText, render, Option.getD_some]
  omega

theorem within_jsonOf {room cost : Nat} {kind : Json} (nullable : Bool)
    (within : Within room cost kind) : Within (room + 1) (cost + 4) (jsonOf kind nullable) := by
  have levels := within.levels
  have bytes := within.bytes
  refine ⟨?_, ?_⟩
  · rw [levels_jsonOf]
    omega
  · cases nullable with
    | true =>
      simp [jsonOf, struct, render, renderMembers, bytesOf, length_words]
      omega
    | false =>
      simp [jsonOf, struct, render, renderMembers, bytesOf, length_words]
      omega

theorem within_decimal (precision scale : UInt8) :
    Within 2 6 (Atom.toJson (.decimal precision scale)) := by
  have first := renderByte_le precision
  have second := renderByte_le scale
  refine ⟨Nat.le_refl 2, ?_⟩
  simp [Atom.toJson, struct, render, renderMembers, length_words] at first second ⊢
  omega

theorem within_array {room cost : Nat} {element : Json} (within : Within room cost element) :
    Within (room + 2) (cost + 3) (struct [("array", struct [("element", element)])]) := by
  have levels := within.levels
  have bytes := within.bytes
  refine ⟨?_, ?_⟩
  · simp [struct, openLevels, membersLevels]
    omega
  · simp [struct, render, renderMembers, length_words]
    omega

theorem within_map {room first second : Nat} {key value : Json} (withinKey : Within room first key)
    (withinValue : Within room second value) :
    Within (room + 2) (first + second + 4)
      (struct [("map", struct [("key", key), ("value", value)])]) := by
  have keyLevels := withinKey.levels
  have valueLevels := withinValue.levels
  have keyBytes := withinKey.bytes
  have valueBytes := withinValue.bytes
  refine ⟨?_, ?_⟩
  · simp [struct, openLevels, membersLevels]
    omega
  · simp [struct, render, renderMembers, length_words]
    omega

theorem within_row {room cost : Nat} {fields : Json} (within : Within room cost fields) :
    Within (room + 2) (cost + 3) (struct [("row", struct [("fields", fields)])]) := by
  have levels := within.levels
  have bytes := within.bytes
  refine ⟨?_, ?_⟩
  · simp [struct, openLevels, membersLevels]
    omega
  · simp [struct, render, renderMembers, length_words]
    omega

def fieldToJson (field : Field) : Json :=
  .struct [("name", .ofText field.1), ("data_type", field.2.toJson)]

theorem fieldsToJson_eq (fields : List Field) : fieldsToJson fields = fields.map fieldToJson := by
  induction fields with
  | nil => rfl
  | cons field rest ih =>
    obtain ⟨name, type⟩ := field
    rw [fieldsToJson, ih]
    rfl

theorem field_within {room cost : Nat} (name : String) (type : DataType)
    (within : Within room cost type.toJson) :
    (fieldToJson (name, type)).openLevels ≤ room + 1 ∧
      (fieldToJson (name, type)).render.length + 1 ≤
        8 * ((Utf8.encode name).length + cost + 4) := by
  have levels := within.levels
  have bytes := within.bytes
  have named := renderString_le name
  refine ⟨?_, ?_⟩
  · simp [fieldToJson, struct, ofText, openLevels, membersLevels]
    omega
  · simp [fieldToJson, struct, ofText, render, renderMembers, length_words]
    omega

/-! ## Along the reader -/

/-- With this room a reader accepts only spellings that are no shorter and nest no
less than what is written for what it reads. -/
structure Covers (room : Nat) : Prop where
  type : ∀ json type, ofJson? room json = some type → Within room (weight json) type.toJson
  kind : ∀ nullable json type, kindOfJson? nullable room json = some type →
    ∃ kind, type.toJson = jsonOf kind nullable ∧ Within room (weight json) kind
  body : ∀ nullable name json type, bodyOfJson? nullable name room json = some type →
    ∃ kind, type.toJson = jsonOf kind nullable ∧ Within (room + 1) (weight json + 2) kind
  fields : ∀ json fields, fieldsOfJson? room json = some fields →
    Within room (weight json) (.array (fieldsToJson fields))
  field : ∀ json field, fieldOfJson? room json = some field →
    (fieldToJson field).openLevels ≤ room ∧
      (fieldToJson field).render.length + 1 ≤ 8 * weight json

theorem covers_type (room : Nat) (inner : Covers room) (json : Json) (type : DataType) :
    ofJson? (room + 1) json = some type → Within (room + 1) (weight json) type.toJson := by
  intro found
  unfold ofJson? at found
  split at found
  · rename_i kind nullable parts
    have heavy := parts_weight _ json _ (by decide) parts
    simp only [Option.bind_eq_bind, Option.bind_eq_some_iff] at found
    obtain ⟨b, flag, found⟩ := found
    obtain ⟨written, shape, within⟩ := inner.kind b kind type found
    have four := asBool_weight nullable b flag
    rw [shape]
    simp only [itemsWeight] at heavy
    exact (within_jsonOf b within).mono (Nat.le_refl _) (by omega)
  · cases found

theorem covers_kind_name (room : Nat) (nullable : Bool) (name : String) (type : DataType) :
    (Atom.ofName? name).map (.atom · nullable) = some type →
      ∃ kind, type.toJson = jsonOf kind nullable ∧
        Within room ((Utf8.encode name).length + 2) kind := by
  intro found
  obtain ⟨kind, named, rfl⟩ := Option.map_eq_some_iff.mp found
  refine ⟨.ofText name, ?_, within_text room name⟩
  rw [toJson, toJson_of_name name kind named]

theorem covers_kind (room : Nat) (inner : Covers room) (nullable : Bool) (json : Json)
    (type : DataType) :
    kindOfJson? nullable (room + 1) json = some type →
      ∃ kind, type.toJson = jsonOf kind nullable ∧ Within (room + 1) (weight json) kind := by
  intro found
  unfold kindOfJson? at found
  split at found
  · rename_i name
    exact covers_kind_name (room + 1) nullable name type found
  · rename_i name body same
    cases same
    have whole : weight (.object [(some name, body)]) =
        (Utf8.encode name).length + 2 + weight body + 2 := by
      simp only [weight, membersWeight, textWeight, Nat.add_zero]
    split at found
    · rename_i kind named
      have plain : (Atom.ofName? name).map (.atom · nullable) = some type := by
        rw [named]
        exact found
      obtain ⟨written, shape, within⟩ := covers_kind_name (room + 1) nullable name type plain
      exact ⟨written, shape, within.mono (Nat.le_refl _) (by omega)⟩
    · cases found
    · obtain ⟨written, shape, within⟩ := inner.body nullable name _ type found
      exact ⟨written, shape, within.mono (Nat.le_refl _) (by omega)⟩
  · cases found

theorem covers_body (room : Nat) (inner : Covers room) (nullable : Bool) (name : String)
    (json : Json) (type : DataType) :
    bodyOfJson? nullable name (room + 1) json = some type →
      ∃ kind, type.toJson = jsonOf kind nullable ∧ Within (room + 2) (weight json + 2) kind := by
  intro found
  unfold bodyOfJson? at found
  by_cases decimal : name = "decimal"
  · rw [if_pos decimal] at found
    split at found
    · rename_i first second parts
      have heavy := parts_weight _ json _ (by decide) parts
      simp only [Option.bind_eq_bind, Option.bind_eq_some_iff] at found
      obtain ⟨precision, number, scale, other, whole⟩ := found
      cases whole
      have one := asByte_weight first precision number
      have two := asByte_weight second scale other
      simp only [itemsWeight] at heavy
      exact ⟨_, rfl, (within_decimal precision scale).mono (Nat.le_add_left 2 room) (by omega)⟩
    · cases found
  rw [if_neg decimal] at found
  by_cases array : name = "array"
  · rw [if_pos array] at found
    split at found
    · rename_i element parts
      have heavy := parts_weight _ json _ (by decide) parts
      simp only [Option.bind_eq_bind, Option.bind_eq_some_iff] at found
      obtain ⟨read, accepted, whole⟩ := found
      cases whole
      have within := inner.type element read accepted
      simp only [itemsWeight] at heavy
      exact ⟨_, rfl, (within_array within).mono (Nat.le_refl _) (by omega)⟩
    · cases found
  rw [if_neg array] at found
  by_cases map : name = "map"
  · rw [if_pos map] at found
    split at found
    · rename_i key value parts
      have heavy := parts_weight _ json _ (by decide) parts
      simp only [Option.bind_eq_bind, Option.bind_eq_some_iff] at found
      obtain ⟨readKey, acceptedKey, readValue, acceptedValue, whole⟩ := found
      cases whole
      have withinKey := inner.type key readKey acceptedKey
      have withinValue := inner.type value readValue acceptedValue
      simp only [itemsWeight] at heavy
      exact ⟨_, rfl, (within_map withinKey withinValue).mono (Nat.le_refl _) (by omega)⟩
    · cases found
  rw [if_neg map] at found
  by_cases row : name = "row"
  · rw [if_pos row] at found
    split at found
    · rename_i fields parts
      have heavy := parts_weight _ json _ (by decide) parts
      simp only [Option.bind_eq_bind, Option.bind_eq_some_iff] at found
      obtain ⟨read, accepted, whole⟩ := found
      cases whole
      have within := inner.fields fields read accepted
      simp only [itemsWeight] at heavy
      exact ⟨_, rfl, (within_row within).mono (Nat.le_refl _) (by omega)⟩
    · cases found
  · rw [if_neg row] at found
    cases found

theorem covers_items (room : Nat) (inner : Covers room) (items : List Json) :
    ∀ fields, items.mapM (fieldOfJson? room) = some fields →
      itemsLevels (fieldsToJson fields) ≤ room ∧
        (renderItems (fieldsToJson fields)).length ≤ 8 * itemsWeight items + 1 := by
  induction items with
  | nil =>
    intro fields found
    cases found
    exact ⟨Nat.zero_le room, Nat.le_refl 1⟩
  | cons item items ih =>
    intro fields found
    simp only [List.mapM_cons, Option.bind_eq_bind, Option.bind_eq_some_iff] at found
    obtain ⟨field, first, rest, later, whole⟩ := found
    cases whole
    obtain ⟨levels, bytes⟩ := inner.field item field first
    obtain ⟨otherLevels, otherBytes⟩ := ih rest later
    rw [fieldsToJson_eq] at otherLevels otherBytes ⊢
    rw [List.map_cons, itemsLevels, renderItems, itemsWeight, List.length_cons, List.length_append]
    omega

theorem covers_fields (room : Nat) (inner : Covers room) (json : Json) (fields : List Field) :
    fieldsOfJson? (room + 1) json = some fields →
      Within (room + 1) (weight json) (.array (fieldsToJson fields)) := by
  intro found
  unfold fieldsOfJson? at found
  split at found
  · rename_i items same
    cases same
    obtain ⟨levels, bytes⟩ := covers_items room inner items fields found
    refine ⟨Nat.succ_le_succ levels, ?_⟩
    rw [weight]
    cases written : fieldsToJson fields with
    | nil =>
      rw [render, List.length_cons, List.length_singleton]
      omega
    | cons first rest =>
      rw [written, renderItems] at bytes
      rw [render]
      simp only [List.length_cons] at bytes ⊢
      omega
  · cases found

theorem covers_field (room : Nat) (inner : Covers room) (json : Json) (field : Field) :
    fieldOfJson? (room + 1) json = some field →
      (fieldToJson field).openLevels ≤ room + 1 ∧
        (fieldToJson field).render.length + 1 ≤ 8 * weight json := by
  intro found
  unfold fieldOfJson? at found
  split at found
  · rename_i name type parts
    have heavy := parts_weight _ json _ (by decide) parts
    simp only [Option.bind_eq_bind, Option.bind_eq_some_iff] at found
    obtain ⟨text, named, read, accepted, whole⟩ := found
    cases whole
    have light := asText_weight name text named
    obtain ⟨levels, bytes⟩ := field_within text read (inner.type type read accepted)
    simp only [itemsWeight] at heavy
    exact ⟨levels, by omega⟩
  · cases found

theorem covers (room : Nat) : Covers room := by
  -- Every part of the reader hands on less room than it was given.
  induction room with
  | zero =>
    refine ⟨?_, ?_, ?_, ?_, ?_⟩
    · intro json type found
      cases found
    · intro nullable json type found
      unfold kindOfJson? at found
      split at found
      · rename_i name
        exact covers_kind_name 0 nullable name type found
      · rename_i name body same
        cases same
      · cases found
    · intro nullable name json type found
      cases found
    · intro json fields found
      cases found
    · intro json field found
      cases found
  | succ room ih =>
    exact ⟨covers_type room ih, covers_kind room ih, covers_body room ih,
      covers_fields room ih, covers_field room ih⟩

end DataType

namespace Schema

theorem fields_of_ofFields (fields : List Field) (schema : Schema) :
    ofFields fields = .ok schema → schema.fields = fields := by
  intro made
  unfold ofFields at made
  split at made
  · cases made
    rfl
  · cases made

/-- The header that is written for a schema is within what a reader follows, and not
much longer than whatever header the schema was read from. -/
theorem own_header_of_read (bytes : List UInt8) (schema : Schema) :
    ofHeader bytes = .ok schema →
      schema.openLevels ≤ DataType.maxOpen ∧ schema.header.length ≤ 8 * bytes.length := by
  intro found
  unfold ofHeader at found
  split at found
  · cases found
  · rename_i json rest document
    split at found
    · cases found
    · rename_i fields read
      split at found
      · cases found
      · rename_i made ok
        split at found
        · cases found
          have same := fields_of_ofFields fields schema ok
          have within := (DataType.covers DataType.maxOpen).fields json fields read
          have light := Json.weight_le_of_read bytes rest json document
          rw [← same] at within
          exact ⟨within.levels, Nat.le_trans within.bytes (Nat.mul_le_mul_left 8 light)⟩
        · cases found

end Schema

end TableLoad

import TableLoad.Proofs.Json.Documents
import TableLoad.Schema.Header

/-!
# Headers read back

The header written for a schema is read back as that schema as long as its
document stays within the number of levels that a reader opens.
-/

set_option autoImplicit false

namespace TableLoad

namespace Json

mutual

/-- The largest number of lists and objects that are open at once. -/
def openLevels : Json → Nat
  | .array items => itemsLevels items + 1
  | .object members => membersLevels members + 1
  | _ => 0

def itemsLevels : List Json → Nat
  | [] => 0
  | item :: rest => max (openLevels item) (itemsLevels rest)

def membersLevels : List (Option String × Json) → Nat
  | [] => 0
  | (_, item) :: rest => max (openLevels item) (membersLevels rest)

end

/-- The lengths of the words that the structures of a header are written with. -/
theorem length_words :
    (renderString "kind").length = 6 ∧ (renderString "nullable").length = 10 ∧
      (renderString "decimal").length = 9 ∧ (renderString "precision").length = 11 ∧
      (renderString "scale").length = 7 ∧ (renderString "array").length = 7 ∧
      (renderString "element").length = 9 ∧ (renderString "map").length = 5 ∧
      (renderString "key").length = 5 ∧ (renderString "value").length = 7 ∧
      (renderString "row").length = 5 ∧ (renderString "fields").length = 8 ∧
      (renderString "name").length = 6 ∧ (renderString "data_type").length = 11 := by
  decide

/-- A way to spell structures in which a reader finds their one or two parts. -/
structure IsSpelling (spell : List (String × Json) → Json) : Prop where
  single : ∀ name part, parts? [name] (spell [(name, part)]) = some [part]
  pair : ∀ first second left right, first ≠ second →
    parts? [first, second] (spell [(first, left), (second, right)]) = some [left, right]
  levels : ∀ parts, openLevels (spell parts) = itemsLevels (parts.map Prod.snd) + 1
  plain : ∀ parts, ArePlain (parts.map Prod.snd) → IsPlain (spell parts)

theorem isSpelling_struct : IsSpelling struct where
  single name part := by simp [struct, parts?, uniqueMember?]
  pair first second left right different := by
    simp [struct, parts?, uniqueMember?, different, different.symm]
  levels parts := by
    rw [struct, openLevels]
    induction parts with
    | nil => rfl
    | cons part rest ih =>
      exact congrArg (fun deepest => max (openLevels part.2) deepest + 1) (Nat.succ.inj ih)
  plain parts := by
    rw [struct, IsPlain]
    induction parts with
    | nil => exact id
    | cons part rest ih =>
      intro plain
      exact ⟨rfl, plain.1, ih plain.2⟩

end Json

namespace DataType

open Json

/-! ## Documents of types -/

mutual

/-- The document of a type with its structures in some spelling. -/
def spelled (spell : List (String × Json) → Json) : DataType → Json
  | .atom kind nullable => spell [("kind", kind.toJson), ("nullable", .bool nullable)]
  | .array element nullable =>
    spell [("kind", struct [("array", spell [("element", spelled spell element)])]),
      ("nullable", .bool nullable)]
  | .map key value nullable =>
    spell [("kind", struct [("map",
        spell [("key", spelled spell key), ("value", spelled spell value)])]),
      ("nullable", .bool nullable)]
  | .row fields nullable =>
    spell [("kind", struct [("row", spell [("fields", .array (spelledFields spell fields))])]),
      ("nullable", .bool nullable)]

def spelledFields (spell : List (String × Json) → Json) : List (String × DataType) → List Json
  | [] => []
  | (name, type) :: rest =>
    spell [("name", ofText name), ("data_type", spelled spell type)] :: spelledFields spell rest

end

mutual

theorem spelled_struct : (type : DataType) → type.spelled struct = type.toJson
  | .atom kind nullable => rfl
  | .array element nullable => by rw [spelled, toJson, spelled_struct element, jsonOf]
  | .map key value nullable => by
    rw [spelled, toJson, spelled_struct key, spelled_struct value, jsonOf]
  | .row fields nullable => by rw [spelled, toJson, spelledFields_struct fields, jsonOf]

theorem spelledFields_struct : (fields : List Field) →
    spelledFields struct fields = fieldsToJson fields
  | [] => rfl
  | (name, type) :: rest => by
    rw [spelledFields, fieldsToJson, spelled_struct type, spelledFields_struct rest]

end

theorem isPlain_atom (kind : Atom) : IsPlain kind.toJson := by
  cases kind with
  | decimal precision scale =>
    simp only [Atom.toJson, struct, List.map, IsPlain, MembersPlain, and_true]
    exact ⟨rfl, rfl, ⟨precision.toNat, rfl⟩, rfl, ⟨scale.toNat, rfl⟩⟩
  | _ => simp [Atom.toJson, ofText, IsPlain]

theorem levels_jsonOf (kind : Json) (nullable : Bool) :
    openLevels (jsonOf kind nullable) = openLevels kind + 1 := by
  simp [jsonOf, struct, openLevels, membersLevels]

theorem ofJson_jsonOf (room : Nat) (kind : Json) (nullable : Bool) :
    ofJson? (room + 1) (jsonOf kind nullable) = kindOfJson? nullable room kind := by
  simp [ofJson?, jsonOf, struct, parts?, uniqueMember?, asBool?]

theorem asByte_ofNat (b : UInt8) : asByte? (.number (.ofNat b.toNat)) = some b := by
  have small := b.toNat_lt
  simp [asByte?, Numeral.isIntegral, Numeral.ofNat, Numeral.wholeValue, Digits.value_ofNat, small]

theorem kindOfJson_atom (kind : Atom) (nullable : Bool) (room : Nat)
    (levels : openLevels kind.toJson ≤ room) :
    kindOfJson? nullable room kind.toJson = some (.atom kind nullable) := by
  cases kind with
  | decimal precision scale =>
    obtain ⟨room, rfl⟩ : ∃ inner, room = inner + 2 := by
      refine ⟨room - 2, ?_⟩
      simp [Atom.toJson, struct, openLevels, membersLevels] at levels
      omega
    simp [Atom.toJson, struct, kindOfJson?, Atom.ofName?, bodyOfJson?, parts?, uniqueMember?,
      asByte_ofNat]
  | _ => simp [Atom.toJson, ofText, kindOfJson?, Atom.ofName?]

section Spelled

variable {spell : List (String × Json) → Json} (spelling : IsSpelling spell)

include spelling

theorem isPlain_pair (first second : String) {left right : Json} (plain : IsPlain left)
    (later : IsPlain right) : IsPlain (spell [(first, left), (second, right)]) :=
  spelling.plain _ ⟨plain, later, trivial⟩

/-- A kind of one member with parameters, and its nullability. -/
theorem isPlain_kind (name : String) (nullable : Bool) {body : Json} (plain : IsPlain body) :
    IsPlain (spell [("kind", struct [(name, body)]), ("nullable", .bool nullable)]) :=
  isPlain_pair spelling _ _ ⟨rfl, plain, trivial⟩ trivial

mutual

theorem isPlain_spelled : (type : DataType) → IsPlain (type.spelled spell)
  | .atom kind _ => isPlain_pair spelling _ _ (isPlain_atom kind) trivial
  | .array element nullable =>
    isPlain_kind spelling "array" nullable (spelling.plain _ ⟨isPlain_spelled element, trivial⟩)
  | .map key value nullable =>
    isPlain_kind spelling "map" nullable
      (isPlain_pair spelling _ _ (isPlain_spelled key) (isPlain_spelled value))
  | .row fields nullable =>
    isPlain_kind spelling "row" nullable (spelling.plain _ ⟨arePlain_spelled fields, trivial⟩)

theorem arePlain_spelled : (fields : List Field) → ArePlain (spelledFields spell fields)
  | [] => trivial
  | (_, type) :: rest =>
    ⟨isPlain_pair spelling _ _ rfl (isPlain_spelled type), arePlain_spelled rest⟩

end

theorem levels_kind (kind : Json) (nullable : Bool) :
    openLevels (spell [("kind", kind), ("nullable", .bool nullable)]) = openLevels kind + 1 := by
  simp [spelling.levels, itemsLevels, openLevels]

theorem ofJson_kind (room : Nat) (kind : Json) (nullable : Bool) :
    ofJson? (room + 1) (spell [("kind", kind), ("nullable", .bool nullable)]) =
      kindOfJson? nullable room kind := by
  simp [ofJson?, spelling.pair, asBool?]

mutual

theorem ofJson_spelled : (type : DataType) → (room : Nat) →
    openLevels (type.spelled spell) ≤ room → ofJson? room (type.spelled spell) = some type
  | .atom kind nullable, room, levels => by
    rw [spelled, levels_kind spelling] at levels
    obtain ⟨room, rfl⟩ : ∃ inner, room = inner + 1 := ⟨room - 1, by omega⟩
    rw [spelled, ofJson_kind spelling]
    exact kindOfJson_atom kind nullable room (by omega)
  | .array element nullable, room, levels => by
    rw [spelled, levels_kind spelling] at levels
    simp only [struct, openLevels, membersLevels, spelling.levels, itemsLevels, List.map] at levels
    obtain ⟨room, rfl⟩ : ∃ inner, room = inner + 3 := ⟨room - 3, by omega⟩
    have inner := ofJson_spelled element room (by omega)
    rw [spelled, ofJson_kind spelling]
    simp [struct, kindOfJson?, Atom.ofName?, bodyOfJson?, spelling.single, inner]
  | .map key value nullable, room, levels => by
    rw [spelled, levels_kind spelling] at levels
    simp only [struct, openLevels, membersLevels, spelling.levels, itemsLevels, List.map] at levels
    obtain ⟨room, rfl⟩ : ∃ inner, room = inner + 3 := ⟨room - 3, by omega⟩
    have first := ofJson_spelled key room (by omega)
    have second := ofJson_spelled value room (by omega)
    rw [spelled, ofJson_kind spelling]
    simp [struct, kindOfJson?, Atom.ofName?, bodyOfJson?, spelling.pair, first, second]
  | .row fields nullable, room, levels => by
    rw [spelled, levels_kind spelling] at levels
    simp only [struct, openLevels, membersLevels, spelling.levels, itemsLevels, List.map] at levels
    -- The list of the fields opens a level of its own.
    obtain ⟨room, rfl⟩ : ∃ inner, room = inner + 4 := ⟨room - 4, by omega⟩
    have inner := fieldsOfJson_spelled fields room (by omega)
    rw [spelled, ofJson_kind spelling]
    simp [struct, kindOfJson?, Atom.ofName?, bodyOfJson?, spelling.single, fieldsOfJson?, inner]

theorem fieldsOfJson_spelled : (fields : List Field) → (room : Nat) →
    itemsLevels (spelledFields spell fields) ≤ room →
    (spelledFields spell fields).mapM (fieldOfJson? room) = some fields
  | [], room, _ => rfl
  | (name, type) :: rest, room, levels => by
    simp only [spelledFields, itemsLevels, spelling.levels, List.map, ofText, openLevels] at levels
    have later := fieldsOfJson_spelled rest room (by omega)
    obtain ⟨room, rfl⟩ : ∃ inner, room = inner + 1 := ⟨room - 1, by omega⟩
    have inner := ofJson_spelled type room (by omega)
    have first : fieldOfJson? (room + 1)
        (spell [("name", ofText name), ("data_type", type.spelled spell)]) = some (name, type) := by
      simp [fieldOfJson?, spelling.pair, ofText, asText?, inner]
    rw [spelledFields, List.mapM_cons, first]
    simp [later]

end

mutual

/-- No spelling opens more levels than another. -/
theorem levels_spelled : (type : DataType) →
    openLevels (type.spelled spell) = openLevels type.toJson
  | .atom kind nullable => by rw [spelled, toJson, levels_kind spelling, levels_jsonOf]
  | .array element nullable => by
    have inner := levels_spelled element
    rw [spelled, toJson, levels_kind spelling, levels_jsonOf]
    simp [struct, openLevels, membersLevels, spelling.levels, itemsLevels, inner]
  | .map key value nullable => by
    have first := levels_spelled key
    have second := levels_spelled value
    rw [spelled, toJson, levels_kind spelling, levels_jsonOf]
    simp [struct, openLevels, membersLevels, spelling.levels, itemsLevels, first, second]
  | .row fields nullable => by
    have inner := levels_spelledFields fields
    rw [spelled, toJson, levels_kind spelling, levels_jsonOf]
    simp [struct, openLevels, membersLevels, spelling.levels, itemsLevels, inner]

theorem levels_spelledFields : (fields : List Field) →
    itemsLevels (spelledFields spell fields) = itemsLevels (fieldsToJson fields)
  | [] => rfl
  | (name, type) :: rest => by
    have first := levels_spelled type
    have later := levels_spelledFields rest
    simp [spelledFields, fieldsToJson, itemsLevels, spelling.levels, struct, ofText, openLevels,
      membersLevels, first, later]

end

end Spelled

theorem arePlain_fieldsToJson (fields : List Field) : ArePlain (fieldsToJson fields) :=
  spelledFields_struct fields ▸ arePlain_spelled isSpelling_struct fields

end DataType

namespace Schema

def openLevels (schema : Schema) : Nat :=
  schema.toJson.openLevels

theorem ofFields_fields (schema : Schema) : ofFields schema.fields = .ok schema := by
  unfold ofFields
  split
  · rfl
  · rename_i fault failed
    rw [schema.wellFormed] at failed
    cases failed

/-- The header of the schema with its structures in some spelling. -/
def headerIn (spell : List (String × Json) → Json) (schema : Schema) : List UInt8 :=
  (Json.array (DataType.spelledFields spell schema.fields)).render

/-- A reader that follows the levels of a header takes it in every spelling. -/
theorem ofHeader_headerIn {spell : List (String × Json) → Json} (spelling : Json.IsSpelling spell)
    (schema : Schema) (levels : schema.openLevels ≤ DataType.maxOpen) :
    ofHeader (schema.headerIn spell) = .ok schema := by
  have plain : Json.IsPlain (.array (DataType.spelledFields spell schema.fields)) :=
    DataType.arePlain_spelled spelling schema.fields
  have document := Json.read_render _ plain [] (by simp [Json.EndsNumber])
  have fields : DataType.fieldsOfJson? DataType.maxOpen
      (.array (DataType.spelledFields spell schema.fields)) = some schema.fields := by
    have same := DataType.levels_spelledFields spelling schema.fields
    simp only [openLevels, toJson, Json.openLevels, DataType.maxOpen] at levels
    exact DataType.fieldsOfJson_spelled spelling schema.fields 126 (by omega)
  rw [List.append_nil] at document
  simp [ofHeader, headerIn, document, fields, ofFields_fields, Json.isSpent, Json.skipBlanks]

theorem ofHeader_header (schema : Schema) (levels : schema.openLevels ≤ DataType.maxOpen) :
    ofHeader schema.header = .ok schema := by
  have same : schema.headerIn Json.struct = schema.header := by
    rw [headerIn, DataType.spelledFields_struct, header, toJson]
  rw [← same]
  exact ofHeader_headerIn Json.isSpelling_struct schema levels

end Schema

end TableLoad

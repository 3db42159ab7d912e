import TableLoad.Proofs.Schema.Header

/-!
# Headers that are nested too deep

A type needs exactly as many levels as its document opens: given fewer it is not
read at all.  So the header of a schema can be read exactly if it opens no more
levels than a reader follows.
-/

set_option autoImplicit false

namespace TableLoad

namespace DataType

open Json

theorem kindOfJson_atom_deep (kind : Atom) (nullable : Bool) (room : Nat)
    (deep : room < openLevels kind.toJson) : kindOfJson? nullable room kind.toJson = none := by
  cases kind with
  | decimal precision scale =>
    have two : room < 2 := deep
    match room, two with
    | 0, _ => rfl
    | 1, _ => simp [Atom.toJson, struct, kindOfJson?, Atom.ofName?, bodyOfJson?]
  | _ => simp [Atom.toJson, ofText, openLevels] at deep

theorem kindOfJson_shallow (nullable : Bool) (name : String) (body : Json) (room : Nat)
    (named : Atom.ofName? name = none) (shallow : room < 2) :
    kindOfJson? nullable room (struct [(name, body)]) = none := by
  match room, shallow with
  | 0, _ => rfl
  | 1, _ => simp [struct, kindOfJson?, named, bodyOfJson?]

theorem fieldOfJson_deep (name : String) (type : DataType) (room : Nat)
    (deep : room < openLevels (struct [("name", .ofText name), ("data_type", type.toJson)]))
    (inner : ∀ room, room < openLevels type.toJson → ofJson? room type.toJson = none) :
    fieldOfJson? room (struct [("name", .ofText name), ("data_type", type.toJson)]) = none := by
  cases room with
  | zero => rfl
  | succ room =>
    simp only [struct, ofText, openLevels, membersLevels, List.map] at deep
    have unread := inner room (by omega)
    simp [struct, ofText, fieldOfJson?, parts?, uniqueMember?, asText?, unread]

mutual

theorem ofJson_deep : (type : DataType) → (room : Nat) → room < openLevels type.toJson →
    ofJson? room type.toJson = none
  | _, 0, _ => rfl
  | .atom kind nullable, room + 1, deep => by
    rw [toJson, levels_jsonOf] at deep
    rw [toJson, ofJson_jsonOf]
    exact kindOfJson_atom_deep kind nullable room (by omega)
  | .array element nullable, room + 1, deep => by
    rw [toJson, levels_jsonOf] at deep
    simp only [struct, openLevels, membersLevels, List.map] at deep
    rw [toJson, ofJson_jsonOf]
    -- Room ends either before the parameters or inside the element.
    by_cases shallow : room < 2
    · exact kindOfJson_shallow nullable "array" _ room (by decide) shallow
    · obtain ⟨room, rfl⟩ : ∃ inner, room = inner + 2 := ⟨room - 2, by omega⟩
      have inner := ofJson_deep element room (by omega)
      simp [struct, kindOfJson?, Atom.ofName?, bodyOfJson?, parts?, uniqueMember?, inner]
  | .map key value nullable, room + 1, deep => by
    rw [toJson, levels_jsonOf] at deep
    simp only [struct, openLevels, membersLevels, List.map] at deep
    rw [toJson, ofJson_jsonOf]
    by_cases shallow : room < 2
    · exact kindOfJson_shallow nullable "map" _ room (by decide) shallow
    · obtain ⟨room, rfl⟩ : ∃ inner, room = inner + 2 := ⟨room - 2, by omega⟩
      by_cases first : room < openLevels key.toJson
      · have inner := ofJson_deep key room first
        simp [struct, kindOfJson?, Atom.ofName?, bodyOfJson?, parts?, uniqueMember?, inner]
      · have inner := ofJson_deep value room (by omega)
        simp [struct, kindOfJson?, Atom.ofName?, bodyOfJson?, parts?, uniqueMember?, inner]
  | .row fields nullable, room + 1, deep => by
    rw [toJson, levels_jsonOf] at deep
    simp only [struct, openLevels, membersLevels, List.map] at deep
    rw [toJson, ofJson_jsonOf]
    by_cases shallow : room < 2
    · exact kindOfJson_shallow nullable "row" _ room (by decide) shallow
    · obtain ⟨room, rfl⟩ : ∃ inner, room = inner + 2 := ⟨room - 2, by omega⟩
      cases room with
      | zero =>
        simp [struct, kindOfJson?, Atom.ofName?, bodyOfJson?, parts?, uniqueMember?, fieldsOfJson?]
      | succ room =>
        have inner := fieldsOfJson_deep fields room (by omega)
        simp [struct, kindOfJson?, Atom.ofName?, bodyOfJson?, parts?, uniqueMember?,
          fieldsOfJson?, inner]

theorem fieldsOfJson_deep : (fields : List Field) → (room : Nat) →
    room < itemsLevels (fieldsToJson fields) →
    (fieldsToJson fields).mapM (fieldOfJson? room) = none
  | [], room, deep => by simp [fieldsToJson, itemsLevels] at deep
  | (name, type) :: rest, room, deep => by
    rw [fieldsToJson, itemsLevels] at deep
    rw [fieldsToJson, List.mapM_cons]
    by_cases first : room <
        openLevels (struct [("name", .ofText name), ("data_type", type.toJson)])
    · rw [fieldOfJson_deep name type room first (ofJson_deep type)]
      rfl
    · have later := fieldsOfJson_deep rest room (by omega)
      rw [later]
      cases fieldOfJson? room (struct [("name", .ofText name), ("data_type", type.toJson)]) <;> rfl

end

end DataType

namespace Schema

theorem ofHeader_deep (schema : Schema) (deep : DataType.maxOpen < schema.openLevels) :
    ofHeader schema.header = .error .malformed := by
  have plain : Json.IsPlain schema.toJson := by
    simp [toJson, Json.IsPlain, DataType.arePlain_fieldsToJson]
  have document := Json.read_render schema.toJson plain [] (by simp [Json.EndsNumber])
  have fields : DataType.fieldsOfJson? DataType.maxOpen schema.toJson = none := by
    simp only [openLevels, toJson, Json.openLevels, DataType.maxOpen] at deep
    exact DataType.fieldsOfJson_deep schema.fields 126 (by omega)
  rw [List.append_nil] at document
  simp [ofHeader, header, document, fields]

/-- The header is read back as the schema unless it opens too many levels. -/
theorem ofHeader_own_header (schema : Schema) :
    ofHeader schema.header =
      if schema.openLevels ≤ DataType.maxOpen then .ok schema else .error .malformed := by
  by_cases levels : schema.openLevels ≤ DataType.maxOpen
  · rw [if_pos levels]
    exact ofHeader_header schema levels
  · rw [if_neg levels]
    exact ofHeader_deep schema (by omega)

end Schema

end TableLoad

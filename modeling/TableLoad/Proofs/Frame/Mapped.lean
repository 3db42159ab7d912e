import TableLoad.Frame.Cell
import TableLoad.Proofs.Inference.Soundness

/-!
# Column types with a type

The column types that map to a type of a schema, one case for each kind of parts.
-/

set_option autoImplicit false

namespace TableLoad.Frame

def ColumnType.hasParts : ColumnType → Bool
  | .list _ _ _ | .largeList _ _ _ | .struct _ | .map _ => true
  | _ => false

mutual

/-- The column type is supported and maps to the type. -/
inductive Mapped : ColumnType → DataType → Prop
  | leaf {type : ColumnType} {kind : Atom} (plain : type.hasParts = false)
      (mapped : ∀ name, mapType name type = .ok (.atom kind true)) :
      Mapped type (.atom kind true)
  | list {element : ColumnType} {mapped : DataType} (name : String) (nullable : Bool)
      (part : Mapped element mapped) :
      Mapped (.list name element nullable) (.array (mapped.withNullable nullable) true)
  | largeList {element : ColumnType} {mapped : DataType} (name : String) (nullable : Bool)
      (part : Mapped element mapped) :
      Mapped (.largeList name element nullable) (.array (mapped.withNullable nullable) true)
  | map {keyType valueType : ColumnType} {mappedKey mappedValue : DataType}
      (key value : String) (keyNullable valueNullable : Bool)
      (first : Mapped keyType mappedKey) (second : Mapped valueType mappedValue) :
      Mapped (.map (.struct [(key, keyType, keyNullable), (value, valueType, valueNullable)]))
        (.map (mappedKey.withNullable keyNullable) (mappedValue.withNullable valueNullable) true)
  | struct {parts : List (String × ColumnType × Bool)} {fields : List Field}
      (inside : MappedParts parts fields) :
      Mapped (.struct parts) (.row fields true)

/-- Columns map to fields one by one, of the same names and null flags. -/
inductive MappedParts : List (String × ColumnType × Bool) → List Field → Prop
  | nil : MappedParts [] []
  | cons {type : ColumnType} {mapped : DataType} {rest : List (String × ColumnType × Bool)}
      {fields : List Field} (name : String) (nullable : Bool)
      (first : Mapped type mapped) (later : MappedParts rest fields) :
      MappedParts ((name, type, nullable) :: rest) ((name, mapped.withNullable nullable) :: fields)

end

def Unsupported (error : Error) : Prop :=
  ∃ field type, error = .unsupported field type

theorem mapType_plain (name : String) (type : ColumnType) (plain : type.hasParts = false) :
    Yields Unsupported (Mapped type) (mapType name type) := by
  cases type with
  | list | largeList | struct | map => cases plain
  | decimal128 precision scale =>
    cases found : scale? scale with
    | none =>
      simp only [mapType, found]
      exact ⟨_, _, rfl⟩
    | some places =>
      have direct : ∀ other, mapType other (.decimal128 precision scale) =
          .ok (.atom (.decimal precision places) true) := by
        intro other
        simp only [mapType, found]
      rw [direct]
      exact .leaf rfl direct
  | _ => first | exact .leaf rfl fun _ => rfl | exact ⟨_, _, rfl⟩

mutual

theorem mapType_yields (name : String) (type : ColumnType) :
    Yields Unsupported (Mapped type) (mapType name type) := by
  cases type with
  | list element inner nullable =>
    rw [mapType]
    refine yields_bind (mapType_yields element inner) ?_
    exact fun _ part => .list element nullable part
  | largeList element inner nullable =>
    rw [mapType]
    refine yields_bind (mapType_yields element inner) ?_
    exact fun _ part => .largeList element nullable part
  | map entries =>
    cases entries with
    | struct parts =>
      match parts with
      | [(key, keyType, keyNullable), (value, valueType, valueNullable)] =>
        rw [mapType]
        refine yields_bind (mapType_yields key keyType) fun _ first => ?_
        refine yields_bind (mapType_yields value valueType) fun _ second => ?_
        exact .map key value keyNullable valueNullable first second
      | [] | [(_, _, _)] | (_, _, _) :: (_, _, _) :: _ :: _ => exact ⟨_, _, rfl⟩
    | _ => exact ⟨_, _, rfl⟩
  | struct parts =>
    rw [mapType]
    refine yields_bind (mapParts_yields parts) ?_
    exact fun _ inside => .struct inside
  | _ => exact mapType_plain name _ rfl

theorem mapParts_yields (parts : List (String × ColumnType × Bool)) :
    Yields Unsupported (MappedParts parts) (mapParts parts) := by
  match parts with
  | [] => exact .nil
  | (name, type, nullable) :: rest =>
    rw [mapParts]
    refine yields_bind (mapType_yields name type) fun _ first => ?_
    refine yields_bind (mapParts_yields rest) fun _ later => ?_
    exact .cons name nullable first later

end

theorem mapped_of_mapType (name : String) (type : ColumnType) (mapped : DataType)
    (done : mapType name type = .ok mapped) : Mapped type mapped := by
  have yields := mapType_yields name type
  rwa [done] at yields

/-! ## Schemas -/

theorem ofFields_of_liftSchema {fields : List Field} {schema : Schema}
    (made : liftSchema (Schema.ofFields fields) = .ok schema) : schema.fields = fields := by
  cases outcome : Schema.ofFields fields with
  | error fault =>
    rw [outcome] at made
    cases made
  | ok whole =>
    rw [outcome] at made
    cases made
    exact fields_of_ofFields outcome

theorem mapped_of_mapColumns (columns : List Column) (schema : Schema)
    (done : mapColumns columns = .ok schema) : MappedParts columns schema.fields := by
  rw [mapColumns, bind_eq_ok_iff] at done
  obtain ⟨fields, inside, made⟩ := done
  rw [ofFields_of_liftSchema made]
  have yields := mapParts_yields columns
  rwa [inside] at yields

/-- What can be wrong with a schema or its hint, without a look at any cell. -/
def OfSchema (error : Error) : Prop :=
  ∀ cause, error ≠ .cell cause

theorem liftSchema_yields {α : Type} (outcome : Except SchemaFault α) :
    Yields OfSchema (fun _ => True) (liftSchema outcome) := by
  cases outcome with
  | error fault => exact fun _ => Error.noConfusion
  | ok result => trivial

theorem mapColumns_yields (columns : List Column) :
    Yields OfSchema (fun _ => True) (mapColumns columns) := by
  have parts : Yields OfSchema (fun _ => True) (mapParts columns) := by
    refine yields_mono ?_ (fun _ _ => trivial) (mapParts_yields columns)
    rintro _ ⟨field, type, rfl⟩ cause
    exact Error.noConfusion
  rw [mapColumns]
  refine yields_bind parts ?_
  exact fun fields _ => liftSchema_yields (Schema.ofFields fields)

theorem apply_yields (hint : Hint) (mapped : Schema) :
    Yields OfSchema (fun _ => True) (hint.apply mapped) := by
  unfold Hint.apply
  split
  · exact fun _ => Error.noConfusion
  · cases hint with
    | schema whole => trivial
    | names | types => exact liftSchema_yields _

theorem schema_yields (frame : Frame) (hint : Option Hint) :
    Yields OfSchema (fun _ => True) (frame.schema hint) := by
  rw [Frame.schema]
  refine yields_bind (mapColumns_yields frame.columns) fun mapped _ => ?_
  cases hint with
  | none => trivial
  | some hint => exact apply_yields hint mapped

end TableLoad.Frame

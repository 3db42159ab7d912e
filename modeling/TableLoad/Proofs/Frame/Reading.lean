import TableLoad.Proofs.Conversion.Unchanged
import TableLoad.Proofs.Frame.Mapped

/-!
# What is read of a frame

Mapping and reading go through the column types apart from one another.  They agree: a
cell of a type that maps is read as a value of the kinds of the mapped type at every
depth, unless a number in it is out of range.
-/

set_option autoImplicit false

namespace TableLoad.Frame

/-! ## Cells that belong to a type -/

def ColumnType.stores : ColumnType → Cell → Bool
  | .boolean, .bool _ => true
  | .int8, .integer _ | .int16, .integer _ | .int32, .integer _ | .int64, .integer _ => true
  | .uint8, .integer _ | .uint16, .integer _ | .uint32, .integer _ | .uint64, .integer _ => true
  | .float32, .float _ => true
  | .float64, .double _ => true
  | .decimal128 _ _, .integer _ => true
  | .utf8, .text _ | .largeUtf8, .text _ => true
  | .binary, .bytes _ | .largeBinary, .bytes _ => true
  | .date32, .integer _ | .date64, .integer _ => true
  | .time32 _, .integer _ | .time64 _, .integer _ => true
  | .timestamp _ _, .integer _ | .duration _, .integer _ => true
  | _, _ => false

mutual

/-- The cell is one that a column of the type can have, at every depth.  Any cell may be
null, whether or not the column says so. -/
def Holds : ColumnType → Cell → Prop
  | _, .null => True
  | .list _ element _, .list items => ∀ item ∈ items, Holds element item
  | .largeList _ element _, .list items => ∀ item ∈ items, Holds element item
  | .map (.struct [(_, key, _), (_, value, _)]), .map entries =>
    ∀ entry ∈ entries, Holds key entry.1 ∧ Holds value entry.2
  | .struct parts, .struct cells => HoldsParts parts cells
  | type, cell => type.stores cell = true

def HoldsParts : List (String × ColumnType × Bool) → List Cell → Prop
  | [], [] => True
  | (_, type, _) :: parts, cell :: cells => Holds type cell ∧ HoldsParts parts cells
  | _, _ => False

end

def Position.Refuses (position : Position) (error : Error) : Prop :=
  ∃ expected, error = position.outOfRange expected

/-! ## Leaves -/

theorem yields_inRange {α : Type} (position : Position) (expected : String) (found? : Option α)
    (make : α → Value) (good : Value → Prop)
    (each : ∀ found, found? = some found → good (make found)) :
    Yields position.Refuses good (position.inRange expected (found?.map make)) := by
  cases found? with
  | none => exact ⟨expected, rfl⟩
  | some found => exact each found rfl

theorem scale_of_decimal (unscaled : Int) (scale : UInt8) (d : Decimal)
    (made : Decimal.of? unscaled scale = some d) : d.scale = scale := by
  unfold Decimal.of? at made
  split at made
  · cases made
    rfl
  · cases made

theorem read_leaf (position : Position) (type : ColumnType) (kind : Atom) (cell : Cell)
    (mapped : mapType "" type = .ok (.atom kind true)) (holds : type.stores cell = true) :
    Yields position.Refuses (Matches (.atom kind true)) (readLeaf position type cell) := by
  cases type with
  | boolean | int8 | int16 | int32 | int64 | uint8 | uint16 | uint32 | float32 | float64 | utf8
  | largeUtf8 | binary | largeBinary =>
    cases mapped
    cases cell <;> first | exact rfl | cases holds
  | uint64 =>
    cases mapped
    cases cell with
    | integer n =>
      exact yields_inRange position "DECIMAL" _ .decimal _ fun d made =>
        scale_of_decimal n 0 d made
    | _ => cases holds
  | decimal128 precision scale =>
    cases cell with
    | integer n =>
      simp only [mapType] at mapped
      simp only [readLeaf]
      cases found : scale? scale with
      | none =>
        rw [found] at mapped
        cases mapped
      | some scale =>
        rw [found] at mapped
        cases mapped
        exact yields_inRange position "DECIMAL" _ .decimal _ fun d made =>
          scale_of_decimal n scale d made
    | _ => cases holds
  | date32 | date64 | time32 | time64 | timestamp | duration =>
    cases mapped
    cases cell with
    | integer n => exact yields_inRange position _ _ _ _ fun _ _ => rfl
    | _ => cases holds
  | _ => cases cell <;> cases holds

theorem read_plain (position : Position) (type : ColumnType) (kind : Atom) (cell : Cell)
    (plain : type.hasParts = false) (mapped : mapType "" type = .ok (.atom kind true))
    (holds : Holds type cell) :
    Yields position.Refuses (Everywhere Matches (.atom kind true))
      (readCell position type cell) := by
  by_cases absent : cell = .null
  · have skipped : readCell position type .null = .ok .null := by
      cases type with
      | list | largeList | struct | map => cases plain
      | null => cases mapped
      | _ => rfl
    rw [absent, skipped]
    exact (everywhere_null _).mpr trivial
  · have stored : type.stores cell = true := by
      cases type with
      | list | largeList | struct | map => cases plain
      | _ =>
        cases cell with
        | null => exact absurd rfl absent
        | _ => exact holds
    have read : readCell position type cell = readLeaf position type cell := by
      cases type with
      | list | largeList | struct | map => cases plain
      | _ =>
        cases cell with
        | null => exact absurd rfl absent
        | _ => rfl
    rw [read]
    refine yields_mono (fun _ refused => refused) ?_ (read_leaf position type kind cell mapped stored)
    exact fun value shape => (everywhere_atom kind true value).mpr shape

/-! ## Cells at every depth -/

theorem everywhere_matches_withNullable (type : DataType) (nullable : Bool) (value : Value)
    (shape : Everywhere Matches type value) :
    Everywhere Matches (type.withNullable nullable) value :=
  (everywhere_withNullable type nullable (matches_withNullable type nullable) value).mpr shape

theorem read_items (position : Position) (element : ColumnType) (mapped : DataType)
    (nullable : Bool) (items : List Cell)
    (each : ∀ item ∈ items,
      Yields position.Refuses (Everywhere Matches mapped) (readCell position element item)) :
    Yields position.Refuses
      (fun results => ∀ result ∈ results, Everywhere Matches (mapped.withNullable nullable) result)
      (items.mapM fun item => readCell position element item) := by
  refine yields_mapM items fun item member => ?_
  refine yields_mono (fun _ refused => refused) ?_ (each item member)
  exact everywhere_matches_withNullable mapped nullable

mutual

/-- A cell of a type that maps is read as a value of the kinds of the mapped type, or
refused as out of range. -/
theorem read_mapped (position : Position) : {type : ColumnType} → {mapped : DataType} →
    Mapped type mapped → (cell : Cell) → Holds type cell →
      Yields position.Refuses (Everywhere Matches mapped) (readCell position type cell)
  | _, _, .leaf plain mapped, cell, holds => read_plain position _ _ cell plain (mapped "") holds
  | .list _ element _, _, .list _ nullable part, cell, holds => by
    cases cell with
    | null => exact trivial
    | list items =>
      have each := fun item member => read_mapped position part item (holds item member)
      rw [readCell]
      refine yields_bind (read_items position element _ nullable items each) ?_
      exact fun results good => ⟨trivial, good⟩
    | _ => cases holds
  | .largeList _ element _, _, .largeList _ nullable part, cell, holds => by
    cases cell with
    | null => exact trivial
    | list items =>
      have each := fun item member => read_mapped position part item (holds item member)
      rw [readCell]
      refine yields_bind (read_items position element _ nullable items each) ?_
      exact fun results good => ⟨trivial, good⟩
    | _ => cases holds
  | _, _, .map key value keyNullable valueNullable first second, cell, holds => by
    cases cell with
    | null => exact trivial
    | map entries =>
      have keys := yields_mapM entries fun entry member =>
        read_mapped position first entry.1 (holds entry member).1
      have values := yields_mapM entries fun entry member =>
        read_mapped position second entry.2 (holds entry member).2
      rw [readCell]
      refine yields_bind keys fun keys goodKeys => yields_bind values fun values goodValues => ?_
      refine ⟨trivial, fun entry member => ?_⟩
      obtain ⟨inKeys, inValues⟩ := List.of_mem_zip member
      exact ⟨everywhere_matches_withNullable _ keyNullable _ (goodKeys entry.1 inKeys),
        everywhere_matches_withNullable _ valueNullable _ (goodValues entry.2 inValues)⟩
    | _ => cases holds
  | _, _, .struct inside, cell, holds => by
    cases cell with
    | null => exact trivial
    | struct cells =>
      rw [readCell]
      refine yields_bind (read_parts position inside cells holds) ?_
      exact fun results good => ⟨trivial, good⟩
    | _ => cases holds

theorem read_parts (position : Position) : {parts : List (String × ColumnType × Bool)} →
    {fields : List Field} → MappedParts parts fields → (cells : List Cell) →
    HoldsParts parts cells →
      Yields position.Refuses (EverywhereIn Matches fields) (readCells position parts cells)
  | _, _, .nil, [], _ => trivial
  | _, _, .cons name nullable first later, cell :: cells, holds => by
    rw [readCells]
    refine yields_bind (read_mapped position first cell holds.1) fun value good => ?_
    refine yields_bind (read_parts position later cells holds.2) fun values others => ?_
    exact ⟨everywhere_matches_withNullable _ nullable value good, others⟩

end

end TableLoad.Frame

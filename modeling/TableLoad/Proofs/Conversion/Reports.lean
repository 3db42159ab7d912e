import TableLoad.Proofs.Conversion.Agreement

/-!
# What verification and conversion report

Verification and conversion walk through a record in the same order, stop at the same
first offender and say the same about it.  They part only at a null in a type that does
not admit it, where verification stops and conversion goes on.
-/

set_option autoImplicit false

namespace TableLoad

/-! ## Types within types -/

namespace DataType

mutual

def parts : DataType → List DataType
  | .atom kind nullable => [.atom kind nullable]
  | .array element nullable => .array element nullable :: parts element
  | .map key value nullable => .map key value nullable :: (parts key ++ parts value)
  | .row fields nullable => .row fields nullable :: partsOf fields

def partsOf : List (String × DataType) → List DataType
  | [] => []
  | (_, type) :: rest => parts type ++ partsOf rest

end

theorem mem_parts_self (type : DataType) : type ∈ type.parts := by
  cases type <;> simp [parts]

end DataType

/-- The types of the columns admit nulls, at every depth. -/
def Schema.NullableThroughout (schema : Schema) : Prop :=
  ∀ part ∈ DataType.partsOf schema.fields, part.nullable = true

instance (schema : Schema) : Decidable schema.NullableThroughout :=
  inferInstanceAs (Decidable (∀ part ∈ DataType.partsOf schema.fields, part.nullable = true))

/-! ## Reports -/

section Reports

variable {α β : Type} (index : Nat) (types : List DataType)

/-- A null was found in one of the types that does not admit it. -/
def RefusesNull (checked : Except ValidationError Unit) : Prop :=
  ∃ path, ∃ type ∈ types, type.nullable = false ∧
    checked = .error (mismatch index path type .null)

/-- Verification comes to what conversion comes to, unless it refuses a null. -/
def ReportsAs (checked : Except ValidationError Unit) (converted : Except ValidationError α) :
    Prop :=
  checked = converted.map (fun _ => ()) ∨ RefusesNull index types checked

variable {index types}

theorem reportsAs_self (checked : Except ValidationError Unit) :
    ReportsAs index types checked checked := by
  left
  cases checked <;> rfl

theorem reportsAs_bind {checked next : Except ValidationError Unit}
    {converted : Except ValidationError α} {later : α → Except ValidationError β}
    (first : ReportsAs index types checked converted)
    (rest : ∀ result, ReportsAs index types next (later result)) :
    ReportsAs index types (checked >>= fun _ => next) (converted >>= later) := by
  rcases first with same | ⟨path, type, member, strict, refused⟩
  · rw [same]
    cases converted with
    | error cause => exact .inl rfl
    | ok result => exact rest result
  · rw [refused]
    exact .inr ⟨path, type, member, strict, rfl⟩

theorem reportsAs_pure {checked : Except ValidationError Unit}
    {converted : Except ValidationError α} (make : α → β)
    (first : ReportsAs index types checked converted) :
    ReportsAs index types checked (converted >>= fun result => pure (make result)) := by
  refine first.imp_left fun same => ?_
  rw [same]
  cases converted <;> rfl

theorem reportsAs_each {check : Nat → α → Except ValidationError Unit}
    {convert : Nat → α → Except ValidationError β} (items : List α)
    (each : ∀ item ∈ items, ∀ place, ReportsAs index types (check place item) (convert place item))
    (place : Nat) :
    ReportsAs index types (forEachFrom check place items) (mapEachFrom convert place items) := by
  induction items generalizing place with
  | nil => exact .inl rfl
  | cons item rest ih =>
    rw [forEachFrom, mapEachFrom]
    refine reportsAs_bind (each item List.mem_cons_self place) fun result => ?_
    apply reportsAs_pure
    exact ih (fun other member => each other (List.mem_cons_of_mem item member)) (place + 1)

theorem reportsAs_null (type : DataType) (member : type ∈ types) (path : String) :
    ReportsAs index types (verifyValue index type path .null)
      (convertValue index type path .null) := by
  have either : verifyValue index type path .null =
      if type.nullable then .ok () else .error (mismatch index path type .null) := by
    cases type <;> rfl
  rw [either, convertValue_null]
  cases admitted : type.nullable with
  | true => exact .inl rfl
  | false => exact .inr ⟨path, type, member, admitted, rfl⟩

theorem reportsAs_atom (kind : Atom) (nullable : Bool) (path : String) (value : Value)
    (present : value ≠ .null) :
    ReportsAs index types (verifyValue index (.atom kind nullable) path value)
      (convertValue index (.atom kind nullable) path value) := by
  left
  rw [verifyValue, convertValue]
  · cases coerce? kind value <;> rfl
  all_goals exact present

/-! ## Values and records -/

mutual

theorem reportsAs_value : (type : DataType) → (∀ part ∈ type.parts, part ∈ types) →
    (path : String) → (value : Value) →
      ReportsAs index types (verifyValue index type path value) (convertValue index type path value)
  | .atom kind nullable, inside, path, value => by
    by_cases absent : value = .null
    · rw [absent]
      exact reportsAs_null _ (inside _ (DataType.mem_parts_self _)) path
    · exact reportsAs_atom kind nullable path value absent
  | .array element nullable, inside, path, value => by
    have within : ∀ part ∈ element.parts, part ∈ types :=
      fun part member => inside part (List.mem_cons_of_mem _ member)
    cases value with
    | null => exact reportsAs_null _ (inside _ (DataType.mem_parts_self _)) path
    | list items =>
      rw [verifyValue, convertValue]
      apply reportsAs_pure
      exact reportsAs_each items
        (fun item _ place => reportsAs_value element within (indexPath path place) item) 0
    | _ => exact .inl rfl
  | .map key held nullable, inside, path, value => by
    have keys : ∀ part ∈ key.parts, part ∈ types := fun part member =>
      inside part (List.mem_cons_of_mem _ (List.mem_append_left _ member))
    have values : ∀ part ∈ held.parts, part ∈ types := fun part member =>
      inside part (List.mem_cons_of_mem _ (List.mem_append_right _ member))
    cases value with
    | null => exact reportsAs_null _ (inside _ (DataType.mem_parts_self _)) path
    | map entries =>
      rw [verifyValue, convertValue]
      apply reportsAs_pure
      refine reportsAs_each entries (fun entry _ _ => ?_) 0
      refine reportsAs_bind (reportsAs_value key keys (keyPath path) entry.1) fun result => ?_
      apply reportsAs_pure
      exact reportsAs_value held values (valuePath path) entry.2
    | _ => exact .inl rfl
  | .row fields nullable, inside, path, value => by
    have within : ∀ part ∈ DataType.partsOf fields, part ∈ types :=
      fun part member => inside part (List.mem_cons_of_mem _ member)
    cases value with
    | null => exact reportsAs_null _ (inside _ (DataType.mem_parts_self _)) path
    | record r =>
      rw [verifyValue, convertValue]
      refine reportsAs_bind (reportsAs_self (checkArity fields index path r)) fun _ => ?_
      apply reportsAs_pure
      exact reportsAs_fields fields within (fields.map Prod.fst) 0 path r
    | _ => exact .inl rfl

theorem reportsAs_fields : (fields : List (String × DataType)) →
    (∀ part ∈ DataType.partsOf fields, part ∈ types) → (names : List String) →
    (position : Nat) → (path : String) → (r : Record) →
      ReportsAs index types (verifyFields index fields names position path r)
        (convertFields index fields names position path r)
  | [], _, _, _, _, _ => .inl rfl
  | _ :: _, _, [], _, _, _ => .inl rfl
  | (field, type) :: fields, inside, name :: names, position, path, r => by
    have head : ∀ part ∈ type.parts, part ∈ types :=
      fun part member => inside part (List.mem_append_left _ member)
    have tail : ∀ part ∈ DataType.partsOf fields, part ∈ types :=
      fun part member => inside part (List.mem_append_right _ member)
    rw [verifyFields, convertFields]
    refine reportsAs_bind
      (reportsAs_value type head (fieldPath path field) (r.valueAt name position)) fun item => ?_
    apply reportsAs_pure
    exact reportsAs_fields fields tail names (position + 1) path r

end

theorem reportsAs_record (index : Nat) (fields : List Field) (names : List String) (r : Record) :
    ReportsAs index (DataType.partsOf fields) (verifyUnder fields names index r)
      (convertUnder fields names index r) := by
  rw [verifyUnder, convertUnder]
  refine reportsAs_bind (reportsAs_self (checkArity fields index "" r)) fun _ => ?_
  exact reportsAs_fields fields (fun _ member => member) names 0 "" r

end Reports

/-- Under a schema whose types admit nulls at every depth, verification and conversion
both succeed or both fail with the same report.  Under any schema, what conversion
refuses verification refuses too: with the same report, or with that of a null in a type
that does not admit it. -/
theorem verification_reports_as_conversion :
    (∀ schema : Schema, schema.NullableThroughout → ∀ (index : Nat) (record : Record),
      (schema.verify index record = .ok () ∧ ∃ row, schema.convert index record = .ok row) ∨
        ∃ error, schema.verify index record = .error error ∧
          schema.convert index record = .error error) ∧
    ∀ (schema : Schema) (index : Nat) (record : Record) (error : ValidationError),
      schema.convert index record = .error error →
        ∃ reported, schema.verify index record = .error reported ∧
          (reported = error ∨
            ∃ path, ∃ type ∈ DataType.partsOf schema.fields, type.nullable = false ∧
              reported = mismatch index path type .null) := by
  constructor
  · intro schema admitted index record
    rcases reportsAs_record index schema.fields schema.names record with
      same | ⟨path, type, member, strict, _⟩
    · rw [Schema.verify, Schema.convert, same]
      cases convertUnder schema.fields schema.names index record with
      | error cause => exact .inr ⟨cause, rfl, rfl⟩
      | ok row => exact .inl ⟨rfl, row, rfl⟩
    · rw [admitted type member] at strict
      cases strict
  · intro schema index record error failed
    rw [Schema.convert] at failed
    rcases reportsAs_record index schema.fields schema.names record with
      same | ⟨path, type, member, strict, refused⟩
    · rw [failed] at same
      exact ⟨error, same, .inl rfl⟩
    · exact ⟨_, refused, .inr ⟨path, type, member, strict, rfl⟩⟩

def tours : Schema where
  fields :=
    [("lengths", .array (.atom .int true) true),
      ("stops", .map (.atom .string true) (.row [("day", .atom .date true)] true) true)]
  wellFormed := rfl

/-- The first stop has no date and no name, the second no place for a date, and the third
a number for a name. -/
def unplannedTour : Record :=
  .named .mapping
    [("lengths", .list [.null, .bool true]),
      ("stops", .map [(.null, .record (.positional .row [.null])),
        (.string "harbour", .record (.positional .tuple [])),
        (.int 3, .record (.named .mapping []))])]

def numberedTours : Schema where
  fields := [("number", .atom .bigInt false), ("length", .atom .int true)]
  wellFormed := rfl

theorem unplanned_tour_reported :
    (∃ error : ValidationError, error.field = "stops\x7bvalue\x7d" ∧ error.actual = "0 fields" ∧
      tours.verify 4 unplannedTour = .error error ∧
        tours.convert 4 unplannedTour = .error error) ∧
    ∃ error reported : ValidationError, error.field = "length" ∧ reported.field = "number" ∧
      numberedTours.convert 5 (.positional .tuple [.null, .string "long"]) = .error error ∧
        numberedTours.verify 5 (.positional .tuple [.null, .string "long"]) = .error reported := by
  constructor
  · have admitted : tours.NullableThroughout := by decide
    have failed : tours.convert 4 unplannedTour =
        .error
          { record := 4
            field := "stops\x7bvalue\x7d"
            expected := "1 fields"
            actual := "0 fields" } := by
      rfl
    rcases verification_reports_as_conversion.1 tours admitted 4 unplannedTour with
      ⟨_, row, converted⟩ | ⟨error, verified, converted⟩
    · rw [failed] at converted
      cases converted
    · rw [failed] at converted
      cases converted
      exact ⟨_, rfl, rfl, verified, failed⟩
  · have failed : numberedTours.convert 5 (.positional .tuple [.null, .string "long"]) =
        .error { record := 5, field := "length", expected := "INT", actual := "STRING" } := by
      rfl
    obtain ⟨reported, verified, _⟩ :=
      verification_reports_as_conversion.2 numberedTours 5 _ _ failed
    refine ⟨_, reported, rfl, ?_, failed, verified⟩
    cases verified
    rfl

end TableLoad

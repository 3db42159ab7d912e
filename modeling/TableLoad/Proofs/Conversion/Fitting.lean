import TableLoad.Proofs.Outcome

/-!
# Values that fit a type

`Fits` says which values a type admits, without records, paths and messages.
Verification accepts exactly the values that fit, wherever they are found.
-/

set_option autoImplicit false

namespace TableLoad

mutual

/-- A null where nulls are admitted, or a value that the type can represent. -/
def Fits : DataType → Value → Prop
  | type, .null => type.nullable = true
  | .atom kind _, value => (coerce? kind value).isSome = true
  | .array element _, .list items => ∀ item ∈ items, Fits element item
  | .map key value _, .map entries =>
    ∀ entry ∈ entries, Fits key entry.1 ∧ Fits value entry.2
  | .row fields _, .record r =>
    (r.isNamed = false → r.arity = fields.length) ∧
      FieldsFit fields (fields.map Prod.fst) 0 r
  | _, _ => False

/-- The values found under the names, or from a position on, fit the fields. -/
def FieldsFit :
    List (String × DataType) → (names : List String) → (position : Nat) → Record → Prop
  | (_, type) :: fields, name :: names, position, r =>
    Fits type (r.valueAt name position) ∧ FieldsFit fields names (position + 1) r
  | _, _, _, _ => True

end

def RecordFits (fields : List Field) (names : List String) (record : Record) : Prop :=
  (record.isNamed = false → record.arity = fields.length) ∧ FieldsFit fields names 0 record

theorem fits_null (type : DataType) : Fits type .null ↔ type.nullable = true := by
  cases type <;> simp [Fits]

theorem fits_atom (kind : Atom) (nullable : Bool) (value : Value) (present : value ≠ .null) :
    Fits (.atom kind nullable) value ↔ (coerce? kind value).isSome = true := by
  cases value <;> simp [Fits] at present ⊢

theorem fits_row (fields : List Field) (nullable : Bool) (record : Record) :
    Fits (.row fields nullable) (.record record) ↔
      RecordFits fields (fields.map Prod.fst) record := by
  simp [Fits, RecordFits]

theorem checkArity_ok_iff (fields : List Field) (index : Nat) (path : String) (record : Record) :
    checkArity fields index path record = .ok () ↔
      (record.isNamed = false → record.arity = fields.length) := by
  by_cases named : record.isNamed = true
  · simp [checkArity, named]
  · by_cases width : record.arity = fields.length
    · simp [checkArity, width]
    · simp [checkArity, named, width]

/-! ## Verification -/

theorem verifyValue_null (index : Nat) (type : DataType) (path : String) :
    verifyValue index type path .null = .ok () ↔ type.nullable = true := by
  cases admitted : type.nullable <;> cases type <;> simp_all [verifyValue]

theorem verifyValue_atom (index : Nat) (kind : Atom) (nullable : Bool) (path : String)
    (value : Value) (present : value ≠ .null) :
    verifyValue index (.atom kind nullable) path value = .ok () ↔
      (coerce? kind value).isSome = true := by
  cases stored : coerce? kind value <;> cases value <;> simp_all [verifyValue]

mutual

theorem verifyValue_ok_iff (index : Nat) :
    (type : DataType) → (path : String) → (value : Value) →
      (verifyValue index type path value = .ok () ↔ Fits type value)
  | .atom kind nullable, path, value => by
    by_cases absent : value = .null
    · rw [absent, verifyValue_null, fits_null]
    · rw [verifyValue_atom index kind nullable path value absent,
        fits_atom kind nullable value absent]
  | .array element nullable, path, value => by
    cases value with
    | null => rw [verifyValue_null, fits_null]
    | list items =>
      simp only [verifyValue, Fits]
      exact forEachFrom_ok_iff _ (Fits element) items
        (fun item _ position =>
          verifyValue_ok_iff index element (indexPath path position) item) 0
    | _ => simp [verifyValue, Fits]
  | .map key held nullable, path, value => by
    cases value with
    | null => rw [verifyValue_null, fits_null]
    | map entries =>
      simp only [verifyValue, Fits]
      refine forEachFrom_ok_iff _ (fun entry => Fits key entry.1 ∧ Fits held entry.2) entries
        (fun entry _ _ => ?_) 0
      rw [bind_eq_ok_iff]
      have first := verifyValue_ok_iff index key (keyPath path) entry.1
      have second := verifyValue_ok_iff index held (valuePath path) entry.2
      constructor
      · rintro ⟨_, keyChecked, valueChecked⟩
        exact ⟨first.mp keyChecked, second.mp valueChecked⟩
      · rintro ⟨keyFits, valueFits⟩
        exact ⟨(), first.mpr keyFits, second.mpr valueFits⟩
    | _ => simp [verifyValue, Fits]
  | .row fields nullable, path, value => by
    cases value with
    | null => rw [verifyValue_null, fits_null]
    | record r =>
      simp only [verifyValue, Fits]
      rw [bind_eq_ok_iff]
      have arity := checkArity_ok_iff fields index path r
      have parts := verifyFields_ok_iff index fields (fields.map Prod.fst) 0 path r
      constructor
      · rintro ⟨_, checked, verified⟩
        exact ⟨arity.mp checked, parts.mp verified⟩
      · rintro ⟨width, fit⟩
        exact ⟨(), arity.mpr width, parts.mpr fit⟩
    | _ => simp [verifyValue, Fits]

theorem verifyFields_ok_iff (index : Nat) :
    (fields : List (String × DataType)) → (names : List String) → (position : Nat) →
      (path : String) → (r : Record) →
      (verifyFields index fields names position path r = .ok () ↔
        FieldsFit fields names position r)
  | [], names, position, path, r => by simp [verifyFields, FieldsFit]
  | (field, type) :: fields, [], position, path, r => by simp [verifyFields, FieldsFit]
  | (field, type) :: fields, name :: names, position, path, r => by
    simp only [verifyFields, FieldsFit]
    rw [bind_eq_ok_iff]
    have head := verifyValue_ok_iff index type (fieldPath path field) (r.valueAt name position)
    have tail := verifyFields_ok_iff index fields names (position + 1) path r
    constructor
    · rintro ⟨_, first, later⟩
      exact ⟨head.mp first, tail.mp later⟩
    · rintro ⟨first, later⟩
      exact ⟨(), head.mpr first, tail.mpr later⟩

end

theorem verifyUnder_ok_iff (fields : List Field) (names : List String) (index : Nat)
    (record : Record) :
    verifyUnder fields names index record = .ok () ↔ RecordFits fields names record := by
  rw [verifyUnder, bind_eq_ok_iff, RecordFits]
  have arity := checkArity_ok_iff fields index "" record
  have parts := verifyFields_ok_iff index fields names 0 "" record
  constructor
  · rintro ⟨_, checked, verified⟩
    exact ⟨arity.mp checked, parts.mp verified⟩
  · rintro ⟨width, fit⟩
    exact ⟨(), arity.mpr width, parts.mpr fit⟩

end TableLoad

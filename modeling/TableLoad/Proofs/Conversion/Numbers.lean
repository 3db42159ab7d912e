import TableLoad.Proofs.Conversion.Agreement

/-!
# Errors name their record

Whatever is wrong with a record, and however deep in it, the error of its verification
or conversion carries the number the record was given.
-/

set_option autoImplicit false

namespace TableLoad

def ValidationError.Names (index : Nat) (error : ValidationError) : Prop :=
  error.record = index

section Numbers

open ValidationError

variable (index : Nat)

theorem numbered_mismatch {α : Type} (path : String) (type : DataType) (value : Value) :
    Yields (Names index) (fun _ : α => True) (.error (mismatch index path type value)) :=
  rfl

theorem numbered_arity (fields : List Field) (path : String) (r : Record) :
    Yields (Names index) (fun _ => True) (checkArity fields index path r) := by
  unfold checkArity
  split
  · exact rfl
  · trivial

/-! ## Verification -/

theorem numbered_verify_null (type : DataType) (path : String) :
    Yields (Names index) (fun _ => True) (verifyValue index type path .null) := by
  have either : verifyValue index type path .null =
      if type.nullable then .ok () else .error (mismatch index path type .null) := by
    cases type <;> rfl
  rw [either]
  split
  · trivial
  · exact numbered_mismatch index path type .null

theorem numbered_verify_atom (kind : Atom) (nullable : Bool) (path : String) (value : Value) :
    Yields (Names index) (fun _ => True) (verifyValue index (.atom kind nullable) path value) := by
  cases value with
  | null => exact numbered_verify_null index _ path
  | _ =>
    rw [verifyValue]
    · split
      · trivial
      · exact numbered_mismatch index path _ _
    · exact Value.noConfusion

mutual

theorem numbered_verify : (type : DataType) → (path : String) → (value : Value) →
    Yields (Names index) (fun _ => True) (verifyValue index type path value)
  | .atom kind nullable, path, value => numbered_verify_atom index kind nullable path value
  | .array element _, path, value => by
    cases value with
    | null => exact numbered_verify_null index _ path
    | list items =>
      rw [verifyValue]
      exact yields_forEachFrom items
        (fun item _ position => numbered_verify element (indexPath path position) item) 0
    | _ => exact numbered_mismatch index path _ _
  | .map key held _, path, value => by
    cases value with
    | null => exact numbered_verify_null index _ path
    | map entries =>
      rw [verifyValue]
      refine yields_forEachFrom entries (fun entry _ _ => ?_) 0
      refine yields_bind (numbered_verify key (keyPath path) entry.1) fun _ _ => ?_
      exact numbered_verify held (valuePath path) entry.2
    | _ => exact numbered_mismatch index path _ _
  | .row fields _, path, value => by
    cases value with
    | null => exact numbered_verify_null index _ path
    | record r =>
      rw [verifyValue]
      refine yields_bind (numbered_arity index fields path r) fun _ _ => ?_
      exact numbered_verifyFields fields (fields.map Prod.fst) 0 path r
    | _ => exact numbered_mismatch index path _ _

theorem numbered_verifyFields : (fields : List Field) → (names : List String) →
    (position : Nat) → (path : String) → (r : Record) →
    Yields (Names index) (fun _ => True) (verifyFields index fields names position path r)
  | [], _, _, _, _ => trivial
  | _ :: _, [], _, _, _ => trivial
  | (field, type) :: fields, name :: names, position, path, r => by
    rw [verifyFields]
    refine yields_bind (numbered_verify type (fieldPath path field) (r.valueAt name position)) ?_
    exact fun _ _ => numbered_verifyFields fields names (position + 1) path r

end

/-! ## Conversion -/

theorem numbered_convert_atom (kind : Atom) (nullable : Bool) (path : String) (value : Value) :
    Yields (Names index) (fun _ => True) (convertValue index (.atom kind nullable) path value) := by
  cases value with
  | null => trivial
  | _ =>
    rw [convertValue]
    · split
      · trivial
      · exact numbered_mismatch index path _ _
    · exact Value.noConfusion

mutual

theorem numbered_convert : (type : DataType) → (path : String) → (value : Value) →
    Yields (Names index) (fun _ => True) (convertValue index type path value)
  | .atom kind nullable, path, value => numbered_convert_atom index kind nullable path value
  | .array element _, path, value => by
    cases value with
    | null => trivial
    | list items =>
      rw [convertValue]
      exact yields_pure (yields_mapEachFrom items (fun item _ position =>
        numbered_convert element (indexPath path position) item) 0)
    | _ => exact numbered_mismatch index path _ _
  | .map key held _, path, value => by
    cases value with
    | null => trivial
    | map entries =>
      have each : ∀ entry ∈ entries, ∀ _ : Nat,
          Yields (Names index) (fun _ => True) (convertEntry index key held path entry) := by
        intro entry _ _
        rw [convertEntry]
        refine yields_bind (numbered_convert key (keyPath path) entry.1) fun _ _ => ?_
        exact yields_pure (numbered_convert held (valuePath path) entry.2)
      rw [convertValue]
      exact yields_pure (yields_mapEachFrom entries each 0)
    | _ => exact numbered_mismatch index path _ _
  | .row fields _, path, value => by
    cases value with
    | null => trivial
    | record r =>
      rw [convertValue]
      refine yields_bind (numbered_arity index fields path r) fun _ _ => ?_
      exact yields_pure (numbered_convertFields fields (fields.map Prod.fst) 0 path r)
    | _ => exact numbered_mismatch index path _ _

theorem numbered_convertFields : (fields : List Field) → (names : List String) →
    (position : Nat) → (path : String) → (r : Record) →
    Yields (Names index) (fun _ => True) (convertFields index fields names position path r)
  | [], _, _, _, _ => trivial
  | _ :: _, [], _, _, _ => trivial
  | (field, type) :: fields, name :: names, position, path, r => by
    rw [convertFields]
    refine yields_bind (numbered_convert type (fieldPath path field) (r.valueAt name position)) ?_
    intro _ _
    exact yields_pure (numbered_convertFields fields names (position + 1) path r)

end

theorem numbered_verifyUnder (fields : List Field) (names : List String) (r : Record) :
    Yields (Names index) (fun _ => True) (verifyUnder fields names index r) := by
  rw [verifyUnder]
  refine yields_bind (numbered_arity index fields "" r) ?_
  exact fun _ _ => numbered_verifyFields index fields names 0 "" r

theorem numbered_convertUnder (fields : List Field) (names : List String) (r : Record) :
    Yields (Names index) (fun _ => True) (convertUnder fields names index r) := by
  rw [convertUnder]
  refine yields_bind (numbered_arity index fields "" r) ?_
  exact fun _ _ => numbered_convertFields index fields names 0 "" r

end Numbers

theorem Converter.numbered_convert (converter : Converter) (index : Nat) (r : Record) :
    Yields (ValidationError.Names index) (fun _ => True) (converter.convert index r) := by
  unfold convert
  cases converter.scalar && r.isNamed with
  | true => exact rfl
  | false =>
    cases converter.verifies with
    | false => exact numbered_convertUnder index _ _ r
    | true =>
      refine yields_bind (numbered_verifyUnder index converter.schema.fields _ r) ?_
      exact fun _ _ => numbered_convertUnder index _ _ r

end TableLoad

import TableLoad.Proofs.Batch.Nesting
import TableLoad.Proofs.Conversion.Agreement

/-!
# What conversion makes

Converted values hold no names and nest no deeper than their types, whether or
not they conform to them.  So a batch gives them back as they are.
-/

set_option autoImplicit false

namespace TableLoad

open Value

/-- A value without names in it that nests at most as deep as a type. -/
structure PlainFor (type : DataType) (value : Value) : Prop where
  unnamed : value.unnamed = value
  depth : value.depth ≤ type.depth

theorem plain_of_converted_null (index : Nat) (type : DataType) (path : String) (stored : Value)
    (converted : convertValue index type path .null = .ok stored) : PlainFor type stored := by
  rw [convertValue_null] at converted
  cases converted
  exact ⟨by simp [unnamed], by simp [depth]⟩

mutual

theorem plain_of_converted (index : Nat) :
    (type : DataType) → (path : String) → (value stored : Value) →
      convertValue index type path value = .ok stored → PlainFor type stored
  | .atom kind nullable, path, value, stored, converted => by
    by_cases absent : value = .null
    · subst value
      exact plain_of_converted_null index _ path stored converted
    · rw [convertValue_atom index kind nullable path value stored absent] at converted
      obtain ⟨flat, same⟩ := leaf_of_stores kind stored (stores_of_coerce converted)
      exact ⟨same, by omega⟩
  | .array element nullable, path, value, stored, converted => by
    cases value with
    | null => exact plain_of_converted_null index _ path stored converted
    | list items =>
      rw [convertValue_list_iff] at converted
      obtain ⟨results, mapped, rfl⟩ := converted
      have related := mapEachFrom_related _ (fun _ result => PlainFor element result) items
        (fun item _ position result step =>
          plain_of_converted index element (indexPath path position) item result step)
        0 results mapped
      have plain : ∀ result ∈ results, PlainFor element result := fun result member => by
        obtain ⟨_, _, good⟩ := exists_left_of_related related member
        exact good
      refine ⟨?_, ?_⟩
      · rw [unnamed, unnamedItems_eq_map, List.map_congr_left fun result member =>
          (plain result member).unnamed, List.map_id']
      · have bound := itemsDepth_le results element.depth fun result member =>
          (plain result member).depth
        simp only [depth, DataType.depth]
        omega
    | _ => simp [convertValue] at converted
  | .map key held nullable, path, value, stored, converted => by
    cases value with
    | null => exact plain_of_converted_null index _ path stored converted
    | map entries =>
      rw [convertValue_map_iff] at converted
      obtain ⟨results, mapped, rfl⟩ := converted
      have related := mapEachFrom_related _
        (fun _ (result : Value × Value) => PlainFor key result.1 ∧ PlainFor held result.2) entries
        (fun entry _ _ result step => by
          obtain ⟨first, second⟩ := (convertEntry_ok_iff ..).mp step
          exact ⟨plain_of_converted index key (keyPath path) entry.1 result.1 first,
            plain_of_converted index held (valuePath path) entry.2 result.2 second⟩)
        0 results mapped
      have plain : ∀ result ∈ results, PlainFor key result.1 ∧ PlainFor held result.2 :=
        fun result member => by
          obtain ⟨_, _, good⟩ := exists_left_of_related related member
          exact good
      refine ⟨?_, ?_⟩
      · rw [unnamed, unnamedPairs_eq_map, List.map_congr_left fun result member => by
          rw [(plain result member).1.unnamed, (plain result member).2.unnamed], List.map_id']
      · have bound := pairsDepth_le results (max key.depth held.depth) fun result member => by
          have first := (plain result member).1.depth
          have second := (plain result member).2.depth
          omega
        simp only [depth, DataType.depth]
        omega
    | _ => simp [convertValue] at converted
  | .row fields nullable, path, value, stored, converted => by
    cases value with
    | null => exact plain_of_converted_null index _ path stored converted
    | record r =>
      rw [convertValue_record_iff] at converted
      obtain ⟨_, items, parts, rfl⟩ := converted
      obtain ⟨same, bound⟩ :=
        plainItems_of_converted index fields (fields.map Prod.fst) 0 path r items parts
      refine ⟨by rw [unnamed, same], ?_⟩
      simp only [depth, DataType.depth]
      omega
    | _ => simp [convertValue] at converted

theorem plainItems_of_converted (index : Nat) :
    (fields : List Field) → (names : List String) → (position : Nat) → (path : String) →
      (r : Record) → (items : List Value) →
      convertFields index fields names position path r = .ok items →
      unnamedItems items = items ∧ itemsDepth items ≤ DataType.fieldsDepth fields
  | [], names, position, path, r, items, converted => by
    cases names <;> simp [convertFields] at converted <;>
      simp [converted, unnamedItems, itemsDepth]
  | field :: fields, [], position, path, r, items, converted => by
    simp [convertFields] at converted
    simp [converted, unnamedItems, itemsDepth]
  | (field, type) :: fields, name :: names, position, path, r, items, converted => by
    rw [convertFields_cons_iff] at converted
    obtain ⟨item, others, first, later, rfl⟩ := converted
    have plain := plain_of_converted index type (fieldPath path field) (r.valueAt name position)
      item first
    have rest := plainItems_of_converted index fields names (position + 1) path r others later
    obtain ⟨same, flat⟩ := plain
    simp only [unnamedItems, same, rest.1, itemsDepth, DataType.fieldsDepth, true_and]
    omega

end

theorem plain_row_of_converted (fields : List Field) (names : List String) (index : Nat)
    (record : Record) (row : Row) (named : names.length = fields.length)
    (converted : convertUnder fields names index record = .ok row) :
    row.length = fields.length ∧ row.unnamed = row ∧
      itemsDepth row ≤ DataType.fieldsDepth fields := by
  rw [convertUnder, bind_eq_ok_iff] at converted
  obtain ⟨_, _, parts⟩ := converted
  have plain := plainItems_of_converted index fields names 0 "" record row parts
  refine ⟨convertFields_length index fields names 0 "" record row named parts, ?_, plain.2⟩
  rw [Row.unnamed, ← unnamedItems_eq_map]
  exact plain.1

end TableLoad

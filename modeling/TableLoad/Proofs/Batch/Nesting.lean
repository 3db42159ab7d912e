import TableLoad.Batch.Conforms
import TableLoad.Proofs.Schema.Header

/-!
# Nesting of types and values

A value nests no deeper than a type it conforms to, and a type nests less than a
third as deep as its document.  The names that records inside a value carry are
lost in a batch; they do not matter to the type.
-/

set_option autoImplicit false

namespace TableLoad

namespace DataType

mutual

def depth : DataType → Nat
  | .atom _ _ => 0
  | .array element _ => depth element + 1
  | .map key value _ => max (depth key) (depth value) + 1
  | .row fields _ => fieldsDepth fields + 1

def fieldsDepth : List (String × DataType) → Nat
  | [] => 0
  | (_, type) :: rest => max (depth type) (fieldsDepth rest)

end

/-! Every array, map and row takes at least three levels of the document. -/

theorem levels_pos (type : DataType) : 1 ≤ type.toJson.openLevels := by
  cases type <;> simp [toJson, levels_jsonOf]

mutual

theorem depth_le_levels : (type : DataType) → 3 * type.depth + 1 ≤ type.toJson.openLevels
  | .atom kind nullable => levels_pos _
  | .array element nullable => by
    have inner := depth_le_levels element
    simp only [toJson, levels_jsonOf, Json.struct, Json.openLevels, Json.membersLevels, List.map,
      depth]
    omega
  | .map key value nullable => by
    have first := depth_le_levels key
    have second := depth_le_levels value
    simp only [toJson, levels_jsonOf, Json.struct, Json.openLevels, Json.membersLevels, List.map,
      depth]
    omega
  | .row fields nullable => by
    have inner := fieldsDepth_le_levels fields
    simp only [toJson, levels_jsonOf, Json.struct, Json.openLevels, Json.membersLevels, List.map,
      depth]
    omega

theorem fieldsDepth_le_levels : (fields : List Field) →
    3 * fieldsDepth fields ≤ Json.itemsLevels (fieldsToJson fields)
  | [] => Nat.le_refl 0
  | (name, type) :: rest => by
    have first := depth_le_levels type
    have later := fieldsDepth_le_levels rest
    simp only [fieldsToJson, Json.struct, Json.ofText, Json.itemsLevels, Json.openLevels,
      Json.membersLevels, List.map, fieldsDepth]
    omega

end

end DataType

/-- The columns of a schema whose header can be read nest less deep than rows are
read. -/
theorem Schema.depth_le (schema : Schema) (levels : schema.openLevels ≤ DataType.maxOpen) :
    DataType.fieldsDepth schema.fields ≤ 42 := by
  have bound := DataType.fieldsDepth_le_levels schema.fields
  simp only [openLevels, toJson, Json.openLevels, DataType.maxOpen] at levels
  omega

namespace Value

mutual

def depth : Value → Nat
  | .list items => itemsDepth items + 1
  | .map entries => pairsDepth entries + 1
  | .record (.positional _ items) => itemsDepth items + 1
  | .record (.named _ entries) => entriesDepth entries + 1
  | _ => 0

def itemsDepth : List Value → Nat
  | [] => 0
  | v :: rest => max (depth v) (itemsDepth rest)

def pairsDepth : List (Value × Value) → Nat
  | [] => 0
  | (k, v) :: rest => max (max (depth k) (depth v)) (pairsDepth rest)

def entriesDepth : List (String × Value) → Nat
  | [] => 0
  | (_, v) :: rest => max (depth v) (entriesDepth rest)

end

mutual

/-- The value with all records in it as rows without names. -/
def unnamed : Value → Value
  | .list items => .list (unnamedItems items)
  | .map entries => .map (unnamedPairs entries)
  | .record (.positional _ items) => .record (.positional .row (unnamedItems items))
  | .record (.named _ entries) => .record (.positional .row (unnamedEntries entries))
  | value => value

def unnamedItems : List Value → List Value
  | [] => []
  | v :: rest => unnamed v :: unnamedItems rest

def unnamedPairs : List (Value × Value) → List (Value × Value)
  | [] => []
  | (k, v) :: rest => (unnamed k, unnamed v) :: unnamedPairs rest

def unnamedEntries : List (String × Value) → List Value
  | [] => []
  | (_, v) :: rest => unnamed v :: unnamedEntries rest

end

theorem unnamedItems_eq_map (items : List Value) : unnamedItems items = items.map unnamed := by
  induction items with
  | nil => rfl
  | cons v rest ih => simp [unnamedItems, ih]

theorem unnamedItems_length (items : List Value) :
    (unnamedItems items).length = items.length := by
  simp [unnamedItems_eq_map]

theorem unnamedEntries_eq (entries : List (String × Value)) :
    unnamedEntries entries = unnamedItems (entries.map Prod.snd) := by
  induction entries with
  | nil => rfl
  | cons entry rest ih => simp [unnamedEntries, unnamedItems, ih]

theorem entriesDepth_eq (entries : List (String × Value)) :
    entriesDepth entries = itemsDepth (entries.map Prod.snd) := by
  induction entries with
  | nil => rfl
  | cons entry rest ih => simp [entriesDepth, itemsDepth, ih]

theorem depth_record (r : Record) : (Value.record r).depth = itemsDepth r.values + 1 := by
  cases r <;> simp [depth, Record.values, entriesDepth_eq]

theorem unnamed_record (r : Record) :
    (Value.record r).unnamed = .record (.positional .row (unnamedItems r.values)) := by
  cases r <;> simp [unnamed, Record.values, unnamedEntries_eq]

theorem itemsDepth_le (items : List Value) (bound : Nat)
    (all : ∀ item ∈ items, item.depth ≤ bound) : itemsDepth items ≤ bound := by
  induction items with
  | nil => exact Nat.zero_le bound
  | cons item rest ih =>
    have first := all item List.mem_cons_self
    have later := ih fun other member => all other (List.mem_cons_of_mem item member)
    simp only [itemsDepth]
    omega

theorem pairsDepth_le (entries : List (Value × Value)) (bound : Nat)
    (all : ∀ entry ∈ entries, entry.1.depth ≤ bound ∧ entry.2.depth ≤ bound) :
    pairsDepth entries ≤ bound := by
  induction entries with
  | nil => exact Nat.zero_le bound
  | cons entry rest ih =>
    have first := all entry List.mem_cons_self
    have later := ih fun other member => all other (List.mem_cons_of_mem entry member)
    simp only [pairsDepth]
    omega

theorem unnamedPairs_eq_map (entries : List (Value × Value)) :
    unnamedPairs entries = entries.map fun entry => (entry.1.unnamed, entry.2.unnamed) := by
  induction entries with
  | nil => rfl
  | cons entry rest ih => simp [unnamedPairs, ih]

end Value

/-- The row as it is read back: without the names inside its values. -/
def Row.unnamed (row : Row) : Row :=
  row.map Value.unnamed

/-! ## Conforming values -/

open Value

theorem leaf_of_stores (kind : Atom) (value : Value) (stored : kind.stores value = true) :
    value.depth = 0 ∧ value.unnamed = value := by
  cases value with
  | list items => cases kind <;> simp [Atom.stores] at stored
  | map entries => cases kind <;> simp [Atom.stores] at stored
  | record r => cases kind <;> simp [Atom.stores] at stored
  | _ => simp [depth, unnamed]

mutual

theorem depth_of_conforms : (type : DataType) → (value : Value) → conforms type value = true →
    value.depth ≤ type.depth
  | .atom kind nullable, value, fit => by
    by_cases absent : value = .null
    · simp [absent, depth]
    · have leaf := leaf_of_stores kind value (by simpa [conforms, absent] using fit)
      omega
  | .array element nullable, value, fit => by
    cases value with
    | null => simp [depth]
    | list items =>
      simp only [conforms, List.all_eq_true] at fit
      have bound := itemsDepth_le items element.depth fun item member =>
        depth_of_conforms element item (fit item member)
      simp only [depth, DataType.depth]
      omega
    | _ => simp [conforms] at fit
  | .map key value nullable, held, fit => by
    cases held with
    | null => simp [depth]
    | map entries =>
      simp only [conforms, List.all_eq_true, Bool.and_eq_true] at fit
      have bound := pairsDepth_le entries (max key.depth value.depth) fun entry member => by
        have first := depth_of_conforms key entry.1 (fit entry member).1
        have second := depth_of_conforms value entry.2 (fit entry member).2
        omega
      simp only [depth, DataType.depth]
      omega
    | _ => simp [conforms] at fit
  | .row fields nullable, value, fit => by
    cases value with
    | null => simp [depth]
    | record r =>
      simp only [conforms, Bool.and_eq_true, decide_eq_true_eq] at fit
      have bound := itemsDepth_of_conforms fields r.values (by rw [r.values_length, fit.1]) fit.2
      rw [depth_record]
      simp only [DataType.depth]
      omega
    | _ => simp [conforms] at fit

theorem itemsDepth_of_conforms : (fields : List Field) → (items : List Value) →
    items.length = fields.length → conformsFields fields items = true →
    itemsDepth items ≤ DataType.fieldsDepth fields
  | [], [], _, _ => Nat.le_refl 0
  | (name, type) :: fields, item :: items, width, fit => by
    simp only [conformsFields, Bool.and_eq_true] at fit
    have first := depth_of_conforms type item fit.1
    have later := itemsDepth_of_conforms fields items (by simpa using width) fit.2
    simp only [itemsDepth, DataType.fieldsDepth]
    omega

end

mutual

theorem conforms_unnamed : (type : DataType) → (value : Value) →
    conforms type value.unnamed = conforms type value
  | .atom kind nullable, value => by
    cases value with
    | list items => cases kind <;> simp [unnamed, conforms, Atom.stores]
    | map entries => cases kind <;> simp [unnamed, conforms, Atom.stores]
    | record r => cases kind <;> simp [unnamed_record, conforms, Atom.stores]
    | _ => simp [unnamed]
  | .array element nullable, value => by
    cases value with
    | list items =>
      have each := fun item => conforms_unnamed element item
      simp only [unnamed, conforms, unnamedItems_eq_map, List.all_map]
      exact List.all_congr rfl each
    | record r => simp [unnamed_record, conforms]
    | _ => simp [unnamed, conforms]
  | .map key value nullable, held => by
    cases held with
    | map entries =>
      have each : ∀ entry : Value × Value,
          (conforms key entry.1.unnamed && conforms value entry.2.unnamed) =
            (conforms key entry.1 && conforms value entry.2) := fun entry => by
        rw [conforms_unnamed key entry.1, conforms_unnamed value entry.2]
      simp only [unnamed, conforms, unnamedPairs_eq_map, List.all_map]
      exact List.all_congr rfl each
    | record r => simp [unnamed_record, conforms]
    | _ => simp [unnamed, conforms]
  | .row fields nullable, value => by
    cases value with
    | record r =>
      have inner := conformsFields_unnamed fields r.values
      have width : (unnamedItems r.values).length = r.arity := by
        rw [unnamedItems_length, r.values_length]
      rw [unnamed_record, conforms, conforms, ← width, ← inner]
      rfl
    | _ => simp [unnamed, conforms]

theorem conformsFields_unnamed : (fields : List Field) → (items : List Value) →
    conformsFields fields (unnamedItems items) = conformsFields fields items
  | [], _ => by simp [conformsFields]
  | _ :: _, [] => by simp [unnamedItems, conformsFields]
  | (name, type) :: fields, item :: items => by
    have first := conforms_unnamed type item
    have later := conformsFields_unnamed fields items
    simp [unnamedItems, conformsFields, first, later]

end

end TableLoad

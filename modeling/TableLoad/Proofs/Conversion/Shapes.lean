import TableLoad.Conversion.Convert
import TableLoad.Conversion.Verify
import TableLoad.Proofs.Lookup

/-!
# The shape of a record

Conversion and verification see of a record only what they find under the names of the
columns, and how many values it has where these are carried by position.  So the same
values come to the same row or the same error in whatever shape they are carried.
-/

set_option autoImplicit false

namespace TableLoad

/-! ## Mappings -/

namespace Record

theorem lookup_insertEntry (name : String) (value : Value) (entries : List (String × Value))
    (other : String) :
    (insertEntry name value entries).lookup other = ((name, value) :: entries).lookup other := by
  induction entries with
  | nil => rfl
  | cons entry rest ih =>
    obtain ⟨own, held⟩ := entry
    rw [insertEntry]
    split
    · rfl
    · split
      · rename_i same
        rw [lookup_cons_if, lookup_cons_if, lookup_cons_if, same]
        split
        · rfl
        · rfl
      · rename_i different
        rw [lookup_cons_if, ih, lookup_cons_if, lookup_cons_if, lookup_cons_if]
        by_cases here : other = own
        · have apart : other ≠ name := fun same => different (same.symm.trans here)
          rw [if_pos here, if_neg apart, if_pos here]
        · rw [if_neg here, if_neg here]

theorem lookup_mapping (entries : List (String × Value)) (name : String) (position : Nat) :
    (mapping entries).lookup? name position = entries.reverse.lookup name := by
  have sorted : ∀ given held : List (String × Value),
      (given.foldl (fun sorted entry => insertEntry entry.1 entry.2 sorted) held).lookup name =
        (given.reverse ++ held).lookup name := by
    intro given
    induction given with
    | nil =>
      intro held
      rfl
    | cons entry rest ih =>
      intro held
      rw [List.foldl_cons, ih, List.lookup_append, lookup_insertEntry, ← List.lookup_append,
        List.reverse_cons, List.append_assoc, List.singleton_append]
  have whole := sorted entries []
  rw [List.append_nil] at whole
  exact whole

theorem valueAt_mapping {entries : List (String × Value)}
    (distinct : (entries.map Prod.fst).Nodup) (name : String) (position : Nat) :
    (mapping entries).valueAt name position = (entries.lookup name).getD .null := by
  rw [valueAt, lookup_mapping, lookup_of_perm distinct entries.reverse_perm]

/-! ## Records alike -/

/-- The records have the same values for columns that are found under the names, from a
position on. -/
def AlikeUnder (names : List String) (position : Nat) (record other : Record) : Prop :=
  ∀ (i : Nat) (name : String), names[i]? = some name →
    record.valueAt name (position + i) = other.valueAt name (position + i)

theorem AlikeUnder.head {name : String} {names : List String} {position : Nat}
    {record other : Record} (alike : AlikeUnder (name :: names) position record other) :
    record.valueAt name position = other.valueAt name position :=
  alike 0 name rfl

theorem AlikeUnder.tail {name : String} {names : List String} {position : Nat}
    {record other : Record} (alike : AlikeUnder (name :: names) position record other) :
    AlikeUnder names (position + 1) record other := by
  intro i own ownAt
  have shifted := alike (i + 1) own ownAt
  rwa [Nat.add_comm i 1, ← Nat.add_assoc] at shifted

end Record

/-! ## Outcomes -/

section Outcomes

variable {fields : List Field} {names : List String} {record other : Record}

theorem convertFields_of_alike (index position : Nat) (path : String)
    (alike : Record.AlikeUnder names position record other) :
    convertFields index fields names position path record =
      convertFields index fields names position path other := by
  induction fields generalizing names position with
  | nil => rfl
  | cons field fields ih =>
    obtain ⟨own, type⟩ := field
    cases names with
    | nil => rfl
    | cons name names => rw [convertFields, convertFields, alike.head, ih (position + 1) alike.tail]

theorem verifyFields_of_alike (index position : Nat) (path : String)
    (alike : Record.AlikeUnder names position record other) :
    verifyFields index fields names position path record =
      verifyFields index fields names position path other := by
  induction fields generalizing names position with
  | nil => rfl
  | cons field fields ih =>
    obtain ⟨own, type⟩ := field
    cases names with
    | nil => rfl
    | cons name names => rw [verifyFields, verifyFields, alike.head, ih (position + 1) alike.tail]

/-- Conversion and verification come to the same for both records. -/
def Schema.SameOutcomes (schema : Schema) (index : Nat) (record other : Record) : Prop :=
  schema.convert index record = schema.convert index other ∧
    schema.verify index record = schema.verify index other

theorem sameOutcomes_of_alike {schema : Schema} (index : Nat)
    (arity : checkArity schema.fields index "" record = .ok ())
    (otherArity : checkArity schema.fields index "" other = .ok ())
    (alike : Record.AlikeUnder schema.names 0 record other) :
    schema.SameOutcomes index record other := by
  constructor
  · rw [Schema.convert, Schema.convert, convertUnder, convertUnder, arity, otherArity,
      convertFields_of_alike index 0 "" alike]
  · rw [Schema.verify, Schema.verify, verifyUnder, verifyUnder, arity, otherArity,
      verifyFields_of_alike index 0 "" alike]

end Outcomes

/-! ## Shapes -/

theorem checkArity_positional {fields : List Field} (index : Nat) (path : String)
    (form : Positional) {items : List Value} (same : items.length = fields.length) :
    checkArity fields index path (.positional form items) = .ok () := by
  rw [checkArity, if_neg]
  simp [Record.arity, same]

theorem Record.namedRow_of_entries (entries : List (String × Value)) :
    namedRow (entries.map Prod.fst) (entries.map Prod.snd) = .ok (.named .row entries) := by
  have together : (entries.map Prod.fst).zip (entries.map Prod.snd) = entries := by
    rw [List.zip_map', List.map_id']
  rw [namedRow, if_pos (by simp), together]

theorem Record.alike_in_order {entries : List (String × Value)}
    (distinct : (entries.map Prod.fst).Nodup) (form : Positional) :
    AlikeUnder (entries.map Prod.fst) 0 (.positional form (entries.map Prod.snd))
      (.named .mapping entries) := by
  intro i name nameAt
  rw [List.getElem?_map, Option.map_eq_some_iff] at nameAt
  obtain ⟨entry, entryAt, rfl⟩ := nameAt
  have found : entries.lookup entry.1 = some entry.2 :=
    (lookup_eq_some_iff_mem distinct entry.1 entry.2).mpr (List.mem_of_getElem? entryAt)
  simp only [valueAt, lookup?, Nat.zero_add, List.getElem?_map, entryAt, found, Option.map_some]

/-- Entries with distinct names come to the same row or the same error as a mapping and as
a named row, in whatever order the row lists them.  If their names are those of the
columns, so do their values in the order of the columns, as a tuple, a sequence or a row
without names. -/
theorem shape_makes_no_difference (schema : Schema) (index : Nat)
    (entries : List (String × Value)) (distinct : (entries.map Prod.fst).Nodup) :
    (∀ listed : List (String × Value), listed.Perm entries →
      ∃ row, Record.namedRow (listed.map Prod.fst) (listed.map Prod.snd) = .ok row ∧
        schema.SameOutcomes index row (.mapping entries)) ∧
    (∀ ordered : List (String × Value), ordered.Perm entries →
      ordered.map Prod.fst = schema.names → ∀ form : Positional,
        schema.SameOutcomes index (.positional form (ordered.map Prod.snd)) (.mapping entries)) ∧
    ((entries.map Prod.fst).Perm schema.names →
      ∃ ordered : List (String × Value), ordered.Perm entries ∧
        ordered.map Prod.fst = schema.names) := by
  have found : ∀ listed : List (String × Value), listed.Perm entries →
      ∀ names, Record.AlikeUnder names 0 (.named .mapping listed) (.mapping entries) := by
    intro listed reordered names i name _
    rw [Record.valueAt_mapping distinct, ← lookup_of_perm distinct reordered]
    rfl
  refine ⟨?_, ?_, ?_⟩
  · intro listed reordered
    refine ⟨.named .row listed, Record.namedRow_of_entries listed, ?_⟩
    exact sameOutcomes_of_alike index rfl rfl (found listed reordered schema.names)
  · intro ordered reordered named form
    have width : (ordered.map Prod.snd).length = schema.fields.length := by
      rw [List.length_map, ← List.length_map (f := Prod.fst), named, Schema.names, List.length_map]
    have apart : (ordered.map Prod.fst).Nodup := (reordered.map Prod.fst).nodup_iff.mpr distinct
    refine sameOutcomes_of_alike index (checkArity_positional index "" form width) rfl ?_
    intro i name nameAt
    have placed := Record.alike_in_order apart form i name (named ▸ nameAt)
    exact placed.trans (found ordered reordered schema.names i name nameAt)
  · intro named
    have lifted : Relation.Comp (· = List.map Prod.fst ·) List.Perm schema.names entries := by
      rw [List.eq_map_comp_perm]
      exact named.symm
    obtain ⟨ordered, same, reordered⟩ := lifted
    exact ⟨ordered, reordered, same.symm⟩

def parcels : Schema where
  fields := [("weight", .atom .int false), ("price", .atom (.decimal 6 2) true)]
  wellFormed := rfl

def parcel (weight : Value) : List (String × Value) :=
  [("price", .decimal ⟨35, 1, by decide⟩), ("weight", weight)]

theorem parcel_in_any_shape :
    ((parcel (.bool true)).map Prod.fst).Nodup ∧
      (∀ form, parcels.convert 3
        (.positional form [.bool true, .decimal ⟨35, 1, by decide⟩]) =
          .ok [.int 1, .decimal ⟨350, 2, by decide⟩]) ∧
      (∀ form, parcels.convert 3
        (.positional form [.long 2147483648, .decimal ⟨35, 1, by decide⟩]) =
          .error
            { record := 3
              field := "weight"
              expected := "INT NOT NULL"
              actual := "BIGINT 2147483648" }) := by
  have placed : ∀ weight form,
      parcels.convert 3 (.positional form [weight, .decimal ⟨35, 1, by decide⟩]) =
        parcels.convert 3 (.named .row (parcel weight)) := by
    intro weight form
    have distinct : ((parcel weight).map Prod.fst).Nodup :=
      (by decide : ["price", "weight"].Nodup)
    obtain ⟨listings, orders, _⟩ := shape_makes_no_difference parcels 3 (parcel weight) distinct
    obtain ⟨row, built, listed⟩ := listings (parcel weight) (.refl _)
    have ordered := orders (parcel weight).reverse (List.reverse_perm _) rfl form
    cases built
    exact ordered.1.trans listed.1.symm
  refine ⟨by decide, ?_, ?_⟩
  · intro form
    rw [placed]
    rfl
  · intro form
    rw [placed]
    rfl

end TableLoad

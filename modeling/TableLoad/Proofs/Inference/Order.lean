import TableLoad.Proofs.DataType.Semilattice
import TableLoad.Proofs.Inference.Soundness

/-!
# The order of records does not matter

A column gets the join of the types of its values, and joins may be taken in any
order.  What the first record fixes besides, the shape and the names of the
columns, is the same for every record that may stand beside it, unless the
records carry their names in an order of their own.
-/

set_option autoImplicit false

namespace TableLoad

open DataType

/-! ## Values -/

mutual

theorem inferValue_elsewhere (record other : Nat) :
    (path elsewhere : String) → (value : Value) → (type : DataType) →
      inferValue record path value = .ok type → inferValue other elsewhere value = .ok type
  | path, elsewhere, .list items, type, inferred => by
    simp only [inferValue] at inferred ⊢
    rw [bind_eq_ok_iff] at inferred ⊢
    obtain ⟨element, joined, whole⟩ := inferred
    exact ⟨element, inferItems_elsewhere record other _ _ .unobserved items element joined, whole⟩
  | path, elsewhere, .map entries, type, inferred => by
    simp only [inferValue] at inferred ⊢
    rw [bind_eq_ok_iff] at inferred ⊢
    obtain ⟨types, joined, whole⟩ := inferred
    exact ⟨types, inferPairs_elsewhere record other path elsewhere .unobserved .unobserved entries
      types joined, whole⟩
  | path, elsewhere, .record (.positional _ items), type, inferred => by
    simp only [inferValue] at inferred ⊢
    rw [bind_eq_ok_iff] at inferred ⊢
    obtain ⟨fields, members, whole⟩ := inferred
    exact ⟨fields, inferMembers_elsewhere record other path elsewhere 0 items fields members, whole⟩
  | path, elsewhere, .record (.named _ entries), type, inferred => by
    simp only [inferValue] at inferred ⊢
    rw [bind_eq_ok_iff] at inferred ⊢
    obtain ⟨fields, members, whole⟩ := inferred
    exact ⟨fields, inferEntries_elsewhere record other path elsewhere entries fields members, whole⟩
  | path, elsewhere, .null, type, inferred | path, elsewhere, .bool _, type, inferred
  | path, elsewhere, .int _, type, inferred | path, elsewhere, .long _, type, inferred
  | path, elsewhere, .float _, type, inferred | path, elsewhere, .double _, type, inferred
  | path, elsewhere, .decimal _, type, inferred | path, elsewhere, .string _, type, inferred
  | path, elsewhere, .bytes _, type, inferred | path, elsewhere, .date _, type, inferred
  | path, elsewhere, .time _, type, inferred | path, elsewhere, .timestamp _, type, inferred
  | path, elsewhere, .duration _, type, inferred => by
    simpa only [inferValue] using inferred

theorem inferItems_elsewhere (record other : Nat) :
    (path elsewhere : String) → (seen : DataType) → (items : List Value) → (type : DataType) →
      inferItems record path seen items = .ok type →
      inferItems other elsewhere seen items = .ok type
  | path, elsewhere, seen, [], type, inferred => by
    simpa only [inferItems] using inferred
  | path, elsewhere, seen, item :: rest, type, inferred => by
    simp only [inferItems, bind_eq_ok_iff, joinAt_ok_iff] at inferred ⊢
    obtain ⟨found, first, joined, join, later⟩ := inferred
    exact ⟨found, inferValue_elsewhere record other path elsewhere item found first, joined, join,
      inferItems_elsewhere record other path elsewhere joined rest type later⟩

theorem inferPairs_elsewhere (record other : Nat) :
    (path elsewhere : String) → (key held : DataType) → (entries : List (Value × Value)) →
      (types : DataType × DataType) →
      inferPairs record path key held entries = .ok types →
      inferPairs other elsewhere key held entries = .ok types
  | path, elsewhere, key, held, [], types, inferred => by
    simpa only [inferPairs] using inferred
  | path, elsewhere, key, held, (k, v) :: rest, types, inferred => by
    simp only [inferPairs, bind_eq_ok_iff, joinAt_ok_iff] at inferred ⊢
    obtain ⟨foundKey, firstKey, joinedKey, joinKey, found, first, joined, join, later⟩ := inferred
    exact ⟨foundKey, inferValue_elsewhere record other _ _ k foundKey firstKey, joinedKey, joinKey,
      found, inferValue_elsewhere record other _ _ v found first, joined, join,
      inferPairs_elsewhere record other path elsewhere joinedKey joined rest types later⟩

theorem inferMembers_elsewhere (record other : Nat) :
    (path elsewhere : String) → (position : Nat) → (items : List Value) → (fields : List Field) →
      inferMembers record path position items = .ok fields →
      inferMembers other elsewhere position items = .ok fields
  | path, elsewhere, position, [], fields, inferred => by
    simpa only [inferMembers] using inferred
  | path, elsewhere, position, item :: rest, fields, inferred => by
    simp only [inferMembers, bind_eq_ok_iff] at inferred ⊢
    obtain ⟨type, first, others, later, whole⟩ := inferred
    exact ⟨type, inferValue_elsewhere record other _ _ item type first, others,
      inferMembers_elsewhere record other path elsewhere (position + 1) rest others later, whole⟩

theorem inferEntries_elsewhere (record other : Nat) :
    (path elsewhere : String) → (entries : List (String × Value)) → (fields : List Field) →
      inferEntries record path entries = .ok fields →
      inferEntries other elsewhere entries = .ok fields
  | path, elsewhere, [], fields, inferred => by
    simpa only [inferEntries] using inferred
  | path, elsewhere, (name, item) :: rest, fields, inferred => by
    simp only [inferEntries, bind_eq_ok_iff] at inferred ⊢
    obtain ⟨type, first, others, later, whole⟩ := inferred
    exact ⟨type, inferValue_elsewhere record other _ _ item type first, others,
      inferEntries_elsewhere record other path elsewhere rest others later, whole⟩

end

/-! ## Values joined in any order -/

theorem DataType.join_right_comm (seen a b : DataType) :
    (seen.join? a).bind (·.join? b) = (seen.join? b).bind (·.join? a) := by
  rw [join_assoc seen a b, join_comm a b, ← join_assoc seen b a]

theorem inferItems_cons_iff (record : Nat) (path : String) (seen : DataType) (item : Value)
    (rest : List Value) (type : DataType) :
    inferItems record path seen (item :: rest) = .ok type ↔
      ∃ found joined, inferValue record path item = .ok found ∧ seen.join? found = some joined ∧
        inferItems record path joined rest = .ok type := by
  simp only [inferItems, bind_eq_ok_iff, joinAt_ok_iff]
  constructor
  · rintro ⟨found, first, joined, join, later⟩
    exact ⟨found, joined, first, join, later⟩
  · rintro ⟨found, joined, first, join, later⟩
    exact ⟨found, first, joined, join, later⟩

theorem inferItems_reordered (record : Nat) (path : String) {items others : List Value}
    (reordered : items.Perm others) (seen type : DataType)
    (inferred : inferItems record path seen items = .ok type) :
    inferItems record path seen others = .ok type := by
  induction reordered generalizing seen with
  | nil => exact inferred
  | cons item _ ih =>
    rw [inferItems_cons_iff] at inferred ⊢
    obtain ⟨found, joined, first, join, later⟩ := inferred
    exact ⟨found, joined, first, join, ih joined later⟩
  | swap item other rest =>
    simp only [inferItems_cons_iff] at inferred ⊢
    obtain ⟨a, joined, first, join, b, whole, second, joinBoth, later⟩ := inferred
    have swapped := join_right_comm seen a b
    rw [join, Option.bind_some, joinBoth, eq_comm, Option.bind_eq_some_iff] at swapped
    obtain ⟨between, joinOther, joinLast⟩ := swapped
    exact ⟨b, between, second, joinOther, a, whole, first, joinLast, later⟩
  | trans _ _ first second =>
    apply second
    exact first seen inferred

/-! ## Columns -/

/-- The column after some values: their types are joined into its own. -/
def Column.Observes (before : Column) (values : List Value) (after : Column) : Prop :=
  ∃ type, inferItems 0 before.name before.type values = .ok type ∧ after = { before with type }

namespace Column

theorem observes_nil (before after : Column) : before.Observes [] after ↔ after = before := by
  constructor
  · rintro ⟨type, inferred, rfl⟩
    cases inferred
    rfl
  · rintro rfl
    exact ⟨after.type, rfl, rfl⟩

theorem observes_cons (before : Column) (value : Value) (rest : List Value) (after : Column) :
    before.Observes (value :: rest) after ↔
      ∃ between, before.Observes [value] between ∧ between.Observes rest after := by
  constructor
  · rintro ⟨type, inferred, rfl⟩
    obtain ⟨found, joined, first, join, later⟩ := (inferItems_cons_iff ..).mp inferred
    refine ⟨{ before with type := joined }, ⟨joined, ?_, rfl⟩, type, later, rfl⟩
    exact (inferItems_cons_iff ..).mpr ⟨found, joined, first, join, rfl⟩
  · rintro ⟨_, ⟨joined, inferred, rfl⟩, type, later, rfl⟩
    obtain ⟨found, same, first, join, single⟩ := (inferItems_cons_iff ..).mp inferred
    cases single
    exact ⟨type, (inferItems_cons_iff ..).mpr ⟨found, joined, first, join, later⟩, rfl⟩

theorem Observes.reordered {before after : Column} {values others : List Value}
    (observed : before.Observes values after) (reordered : values.Perm others) :
    before.Observes others after := by
  obtain ⟨type, inferred, rfl⟩ := observed
  exact ⟨type, inferItems_reordered 0 before.name reordered before.type type inferred, rfl⟩

end Column

def ColumnsObserve (records : List Record) :
    (position : Nat) → (before after : List Column) → Prop
  | _, [], [] => True
  | position, before :: rest, after :: others =>
    before.Observes (records.map (·.valueAt before.source position)) after ∧
      ColumnsObserve records (position + 1) rest others
  | _, _, _ => False

theorem columnsObserve_nil (position : Nat) (before after : List Column) :
    ColumnsObserve [] position before after ↔ after = before := by
  induction before generalizing position after with
  | nil => cases after <;> simp [ColumnsObserve]
  | cons column rest ih =>
    cases after with
    | nil => simp [ColumnsObserve]
    | cons other others => simp [ColumnsObserve, Column.observes_nil, ih]

theorem columnsObserve_cons (record : Record) (records : List Record) (position : Nat)
    (before after : List Column) :
    ColumnsObserve (record :: records) position before after ↔
      ∃ between, ColumnsObserve [record] position before between ∧
        ColumnsObserve records position between after := by
  induction before generalizing position after with
  | nil =>
    constructor
    · intro whole
      exact ⟨[], trivial, by cases after <;> exact whole⟩
    · rintro ⟨between, first, later⟩
      cases between with
      | nil => cases after <;> exact later
      | cons _ _ => exact first.elim
  | cons column rest ih =>
    constructor
    · intro whole
      cases after with
      | nil => exact whole.elim
      | cons other others =>
        obtain ⟨head, tail⟩ := whole
        obtain ⟨joined, ⟨type, single, rfl⟩, later⟩ := (Column.observes_cons ..).mp head
        obtain ⟨between, firsts, laters⟩ := (ih (position + 1) others).mp tail
        exact ⟨_ :: between, ⟨⟨type, single, rfl⟩, firsts⟩, later, laters⟩
    · rintro ⟨between, first, later⟩
      cases between with
      | nil => exact first.elim
      | cons joined between =>
        cases after with
        | nil => exact later.elim
        | cons other others =>
          obtain ⟨⟨type, single, rfl⟩, firsts⟩ := first
          refine ⟨?_, (ih (position + 1) others).mpr ⟨between, firsts, later.2⟩⟩
          exact (Column.observes_cons ..).mpr ⟨_, ⟨type, single, rfl⟩, later.1⟩

theorem ColumnsObserve.reordered {records others : List Record} {position : Nat}
    {before after : List Column} (observed : ColumnsObserve records position before after)
    (reordered : records.Perm others) : ColumnsObserve others position before after := by
  induction before generalizing position after with
  | nil => cases after <;> exact observed
  | cons column rest ih =>
    cases after with
    | nil => exact observed
    | cons other _ => exact ⟨observed.1.reordered (reordered.map _), ih observed.2⟩

theorem observeColumns_ok_iff (index : Nat) (record : Record) (position : Nat)
    (columns observed : List Column) :
    observeColumns index record position columns = .ok observed ↔
      ColumnsObserve [record] position columns observed := by
  induction columns generalizing position observed with
  | nil => cases observed <;> simp [observeColumns, ColumnsObserve]
  | cons column rest ih =>
    simp only [observeColumns, bind_eq_ok_iff, joinAt_ok_iff, pure_eq_ok_iff]
    constructor
    · rintro ⟨found, inferred, type, join, others, later, rfl⟩
      refine ⟨⟨type, ?_, rfl⟩, (ih (position + 1) others).mp later⟩
      have moved := inferValue_elsewhere index 0 _ column.name _ found inferred
      exact (inferItems_cons_iff ..).mpr ⟨found, type, moved, join, rfl⟩
    · intro whole
      cases observed with
      | nil => exact whole.elim
      | cons other others =>
        obtain ⟨⟨type, inferred, rfl⟩, later⟩ := whole
        obtain ⟨found, same, first, join, single⟩ := (inferItems_cons_iff ..).mp inferred
        cases single
        have moved := inferValue_elsewhere 0 index _ column.name _ found first
        exact ⟨found, moved, type, join, others, (ih (position + 1) others).mpr later, rfl⟩

/-! ## Records -/

namespace Record

/-- What the first record of an inference asks of every other one. -/
def profile (record : Record) : Shape × Nat × Option (List String) :=
  (record.shape, record.arity, record.names?.map sortNames)

/-- The names of the record, if it has any, stand in the order that every record
with these names has them in: a mapping lists its names in increasing order. -/
def CanonicalNames : Record → Prop
  | .positional _ _ => True
  | .named .mapping entries => NamesIncrease entries
  | .named .row _ => False

end Record

theorem checkShape_ok_iff (index : Nat) (first record : Record) :
    checkShape index first record = .ok () ↔ record.profile = first.profile := by
  simp only [checkShape, Record.profile, Prod.mk.injEq]
  by_cases shapes : first.shape = record.shape
  · rw [if_neg (not_not.mpr shapes)]
    by_cases arities : first.arity = record.arity
    · rw [if_neg (not_not.mpr arities)]
      cases first with
      | positional a items =>
        cases record with
        | positional b others => simp [shapes, arities, Record.names?]
        | named b others => cases a <;> cases b <;> simp [Record.shape] at shapes
      | named a items =>
        cases record with
        | positional b others => cases a <;> cases b <;> simp [Record.shape] at shapes
        | named b others =>
          simp only [shapes, arities, Record.names?, Option.map_some, Option.some.injEq, true_and]
          by_cases names : sortNames (items.map Prod.fst) = sortNames (others.map Prod.fst)
          · simp [names]
          · simp [names, Ne.symm names]
    · simp [arities, Ne.symm arities]
  · simp [shapes, Ne.symm shapes]

namespace Record

theorem pairwise_of_namesIncrease : (entries : List (String × Value)) → NamesIncrease entries →
    (entries.map Prod.fst).Pairwise (· < ·)
  | [], _ => .nil
  | [_], _ => by simp
  | (a, _) :: (b, v) :: rest, increase => by
    obtain ⟨first, later⟩ := increase
    have tail := pairwise_of_namesIncrease ((b, v) :: rest) later
    refine .cons ?_ tail
    intro name member
    rcases List.mem_cons.mp member with same | inside
    · exact same ▸ first
    · exact String.lt_trans first (List.rel_of_pairwise_cons tail inside)

theorem namesIncrease_of_pairwise (entries : List (String × Value))
    (increase : (entries.map Prod.fst).Pairwise (· < ·)) : NamesIncrease entries := by
  induction entries with
  | nil => trivial
  | cons entry rest ih =>
    rw [List.map_cons, List.pairwise_cons] at increase
    cases rest with
    | nil => trivial
    | cons next rest => exact ⟨increase.1 next.1 (by simp), ih increase.2⟩

theorem mem_insertEntry (name : String) (value : Value) (entries : List (String × Value))
    (other : String) (member : other ∈ (insertEntry name value entries).map Prod.fst) :
    other = name ∨ other ∈ entries.map Prod.fst := by
  induction entries with
  | nil => simpa [insertEntry] using member
  | cons entry rest ih =>
    simp only [insertEntry] at member
    split at member
    · simpa using member
    · split at member
      · simp only [List.map_cons, List.mem_cons] at member ⊢
        tauto
      · simp only [List.map_cons, List.mem_cons] at member ⊢
        tauto

theorem insertEntry_increases (name : String) (value : Value) (entries : List (String × Value))
    (increase : (entries.map Prod.fst).Pairwise (· < ·)) :
    ((insertEntry name value entries).map Prod.fst).Pairwise (· < ·) := by
  induction entries with
  | nil => simp [insertEntry]
  | cons entry rest ih =>
    obtain ⟨own, held⟩ := entry
    rw [List.map_cons, List.pairwise_cons] at increase
    obtain ⟨least, later⟩ := increase
    simp only [insertEntry]
    split
    · rename_i below
      refine .cons ?_ (.cons least later)
      intro other member
      rcases List.mem_cons.mp member with same | inside
      · exact same ▸ below
      · exact String.lt_trans below (least other inside)
    · rename_i above
      split
      · rename_i same
        exact .cons (same ▸ least) later
      · rename_i different
        have smaller : own < name := by
          by_contra unordered
          apply different
          exact String.le_antisymm (String.not_lt.mp unordered) (String.not_lt.mp above)
        refine .cons ?_ (ih later)
        intro other member
        rcases mem_insertEntry name value rest other member with same | inside
        · exact same ▸ smaller
        · exact least other inside

theorem canonicalNames_mapping (entries : List (String × Value)) :
    (mapping entries).CanonicalNames := by
  have sorted : ∀ (given held : List (String × Value)), (held.map Prod.fst).Pairwise (· < ·) →
      ((given.foldl (fun sorted entry => insertEntry entry.1 entry.2 sorted) held).map
        Prod.fst).Pairwise (· < ·) := by
    intro given
    induction given with
    | nil =>
      intro held increase
      exact increase
    | cons entry rest ih =>
      intro held increase
      exact ih _ (insertEntry_increases entry.1 entry.2 held increase)
  exact namesIncrease_of_pairwise _ (sorted entries [] .nil)

theorem sortNames_of_canonical (entries : List (String × Value))
    (canonical : (named .mapping entries).CanonicalNames) :
    sortNames (entries.map Prod.fst) = entries.map Prod.fst := by
  apply List.mergeSort_of_pairwise
  refine (pairwise_of_namesIncrease entries canonical).imp ?_
  intro a b smaller
  exact decide_eq_true (String.not_lt.mp (String.lt_asymm smaller))

end Record

theorem sourceNames_of_profile {first other : Record} (alike : other.profile = first.profile)
    (canonical : first.CanonicalNames) (also : other.CanonicalNames) :
    other.sourceNames = first.sourceNames := by
  simp only [Record.profile, Prod.mk.injEq] at alike
  obtain ⟨_, arities, names⟩ := alike
  cases first with
  | positional a items =>
    cases other with
    | positional b others => simp only [Record.sourceNames, Record.names?, Option.getD_none, arities]
    | named b others => simp [Record.names?] at names
  | named a items =>
    cases other with
    | positional b others => simp [Record.names?] at names
    | named b others =>
      cases a with
      | row => exact canonical.elim
      | mapping =>
        cases b with
        | row => exact also.elim
        | mapping =>
          simp only [Record.names?, Option.map_some, Option.some.injEq,
            Record.sortNames_of_canonical _ canonical, Record.sortNames_of_canonical _ also] at names
          simp only [Record.sourceNames, Record.names?, Option.getD_some, names]

theorem observeRecords_ok_iff (first : Record) (index : Nat) (columns : List Column)
    (records : List Record) (observed : List Column) :
    observeRecords first index columns records = .ok observed ↔
      (∀ record ∈ records, record.profile = first.profile) ∧
        ColumnsObserve records 0 columns observed := by
  induction records generalizing index columns with
  | nil =>
    simp only [observeRecords, Except.ok.injEq, columnsObserve_nil]
    simp [eq_comm]
  | cons record rest ih =>
    simp only [observeRecords, bind_eq_ok_iff, observeColumns_ok_iff, ih, List.mem_cons,
      forall_eq_or_imp, columnsObserve_cons record rest]
    constructor
    · rintro ⟨_, checked, between, step, others, later⟩
      exact ⟨⟨(checkShape_ok_iff index first record).mp checked, others⟩, between, step, later⟩
    · rintro ⟨⟨alike, others⟩, between, step, later⟩
      exact ⟨(), (checkShape_ok_iff index first record).mpr alike, between, step, others, later⟩

/-! ## Schemas -/

/-- How inference succeeds: the records have one profile, and the columns after all
of them make a schema. -/
theorem inferRecords_ok_iff (names : Option (List String)) (first : Record) (rest : List Record)
    (schema : Schema) :
    inferRecords names (first :: rest) = .ok schema ↔
      (∀ record ∈ first :: rest, record.profile = first.profile) ∧
        ∃ output columns fields, outputNames names first = .ok output ∧
          ColumnsObserve (first :: rest) 0 (freshColumns first output) columns ∧
            finishColumns columns = .ok fields ∧ Schema.ofFields fields = .ok schema := by
  simp only [inferRecords, bind_eq_ok_iff, observeRecords_ok_iff, liftSchema_ok_iff]
  constructor
  · rintro ⟨output, chosen, columns, ⟨alike, observed⟩, fields, finished, made⟩
    exact ⟨alike, output, columns, fields, chosen, observed, finished, made⟩
  · rintro ⟨alike, output, columns, fields, chosen, observed, finished, made⟩
    exact ⟨output, chosen, columns, ⟨alike, observed⟩, fields, finished, made⟩

theorem inferRecords_reordered (names : Option (List String)) (first other : Record)
    (rest others : List Record) (schema : Schema)
    (reordered : (first :: rest).Perm (other :: others))
    (sources : other.profile = first.profile → other.sourceNames = first.sourceNames)
    (inferred : inferRecords names (first :: rest) = .ok schema) :
    inferRecords names (other :: others) = .ok schema := by
  rw [inferRecords_ok_iff] at inferred ⊢
  obtain ⟨alike, output, columns, fields, chosen, observed, finished, made⟩ := inferred
  have same := alike other (reordered.mem_iff.mpr List.mem_cons_self)
  have arities : other.arity = first.arity := by
    simp only [Record.profile, Prod.mk.injEq] at same
    exact same.2.1
  refine ⟨?_, output, columns, fields, ?_, ?_, finished, made⟩
  · intro record member
    rw [same]
    exact alike record (reordered.mem_iff.mpr member)
  · rw [← chosen]
    simp only [outputNames, sources same, arities]
  · have fresh : freshColumns other output = freshColumns first output := by
      simp only [freshColumns, sources same]
    rw [fresh]
    exact observed.reordered reordered

theorem inferSchema_of_reordered (names : Option (List String)) {records others : List Record}
    (reordered : records.Perm others)
    (free : (∀ record ∈ records, record.CanonicalNames) ∨ others.head? = records.head?)
    (schema : Schema) (inferred : inferSchema records (names.map .names) = .ok schema) :
    inferSchema others (names.map .names) = .ok schema := by
  have plain : ∀ list, inferSchema list (names.map .names) = inferRecords names list := by
    intro list
    cases names <;> rfl
  rw [plain] at inferred ⊢
  cases records with
  | nil => cases inferred
  | cons first rest =>
    cases others with
    | nil => exact absurd reordered.length_eq (by simp)
    | cons other others =>
      refine inferRecords_reordered names first other rest others schema reordered ?_ inferred
      intro alike
      rcases free with canonical | heads
      · have inside : other ∈ first :: rest := reordered.mem_iff.mpr List.mem_cons_self
        exact sourceNames_of_profile alike (canonical first List.mem_cons_self)
          (canonical other inside)
      · cases heads
        rfl

/-- Tuples, sequences, unnamed rows and mappings give the same schema in any order,
and in any order they fail to give one.  Records with names in an order of their
own do so in every order that leaves the first record at its place. -/
theorem inferSchema_reordered (names : Option (List String)) (records others : List Record)
    (reordered : records.Perm others)
    (free : (∀ record ∈ records, record.CanonicalNames) ∨ others.head? = records.head?)
    (schema : Schema) :
    inferSchema records (names.map .names) = .ok schema ↔
      inferSchema others (names.map .names) = .ok schema := by
  constructor
  · exact inferSchema_of_reordered names reordered free schema
  · apply inferSchema_of_reordered names reordered.symm
    rcases free with canonical | heads
    · left
      intro record member
      exact canonical record (reordered.mem_iff.mpr member)
    · exact .inr heads.symm

def measurements : List Record :=
  [.mapping [("unit", .string "m"), ("size", .int 3)],
    .mapping [("size", .long 5000000000), ("unit", .null)],
    .mapping [("size", .null), ("unit", .string "km")]]

def measurementSchema : Schema where
  fields := [("size", .atom .bigInt true), ("unit", .atom .string true)]
  wellFormed := rfl

theorem measurements_reversed :
    (∀ record ∈ measurements, record.CanonicalNames) ∧
      inferSchema measurements none = .ok measurementSchema ∧
      inferSchema measurements.reverse none = .ok measurementSchema := by
  have canonical : ∀ record ∈ measurements, record.CanonicalNames := by
    intro record member
    simp only [measurements, List.mem_cons, List.not_mem_nil, or_false] at member
    rcases member with rfl | rfl | rfl
    all_goals apply Record.canonicalNames_mapping
  have inferred : inferSchema measurements none = .ok measurementSchema := by
    have alike : ∀ record ∈ measurements, ∀ index,
        checkShape index (.mapping [("unit", .string "m"), ("size", .int 3)]) record = .ok () := by
      intro record member index
      rw [checkShape_ok_iff]
      simp only [measurements, List.mem_cons, List.not_mem_nil, or_false] at member
      rcases member with rfl | rfl | rfl
      all_goals rfl
    simp only [measurements, List.forall_mem_cons] at alike
    obtain ⟨first, second, third, _⟩ := alike
    simp only [inferSchema, measurements, inferRecords, observeRecords, first, second, third]
    rfl
  refine ⟨canonical, inferred, ?_⟩
  apply (inferSchema_reordered none measurements measurements.reverse
    (List.reverse_perm measurements).symm (.inl canonical) measurementSchema).mp
  exact inferred

end TableLoad

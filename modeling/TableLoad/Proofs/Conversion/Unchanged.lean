import TableLoad.Proofs.Conversion.Agreement

/-!
# Values that are stored unchanged

A value that is of the kinds of its type at every depth is converted to itself, unless
a decimal in it has more digits than its column.  It verifies under the same condition,
if besides every null in it is admitted.
-/

set_option autoImplicit false

namespace TableLoad

mutual

/-- What holds of the value and of its parts at every depth, each with its own type. -/
def Everywhere (good : DataType → Value → Prop) : DataType → Value → Prop
  | .array element nullable, .list items =>
    good (.array element nullable) (.list items) ∧ ∀ item ∈ items, Everywhere good element item
  | .map key value nullable, .map entries =>
    good (.map key value nullable) (.map entries) ∧
      ∀ entry ∈ entries, Everywhere good key entry.1 ∧ Everywhere good value entry.2
  | .row fields nullable, .record r =>
    good (.row fields nullable) (.record r) ∧ EverywhereIn good fields r.values
  | type, value => good type value

/-- What holds everywhere in the values of some fields. -/
def EverywhereIn (good : DataType → Value → Prop) : List (String × DataType) → List Value → Prop
  | [], [] => True
  | (_, type) :: fields, item :: items => Everywhere good type item ∧ EverywhereIn good fields items
  | _, _ => False

end

/-- The value is null or of the kind that the type stores, of any number of digits. -/
def Matches : DataType → Value → Prop
  | _, .null => True
  | .atom (.decimal _ scale) _, .decimal d => d.scale = scale
  | .atom kind _, value => kind.stores value = true
  | .array _ _, .list _ => True
  | .map _ _ _, .map _ => True
  | .row _ _, .record (.positional .row _) => True
  | _, _ => False

def DigitsFit : DataType → Value → Prop
  | .atom (.decimal precision _) _, .decimal d => d.digits ≤ precision.toNat
  | _, _ => True

def NullAdmitted : DataType → Value → Prop
  | type, .null => type.nullable = true
  | _, _ => True

section Everywhere

variable {good : DataType → Value → Prop}

theorem everywhere_atom (kind : Atom) (nullable : Bool) (value : Value) :
    Everywhere good (.atom kind nullable) value ↔ good (.atom kind nullable) value := by
  rw [Everywhere]
  all_goals simp

theorem everywhere_null (type : DataType) :
    Everywhere good type .null ↔ good type .null := by
  cases type <;> simp [Everywhere]

theorem everywhere_withNullable (type : DataType) (nullable : Bool)
    (blind : ∀ value, good (type.withNullable nullable) value ↔ good type value) (value : Value) :
    Everywhere good (type.withNullable nullable) value ↔ Everywhere good type value := by
  cases type with
  | atom kind _ => simpa only [DataType.withNullable, everywhere_atom] using blind value
  | array element _ =>
    cases value with
    | list items => exact and_congr_left' (blind (.list items))
    | _ => exact blind _
  | map key held _ =>
    cases value with
    | map entries => exact and_congr_left' (blind (.map entries))
    | _ => exact blind _
  | row fields _ =>
    cases value with
    | record r => exact and_congr_left' (blind (.record r))
    | _ => exact blind _

theorem length_of_everywhereIn (fields : List Field) (items : List Value)
    (all : EverywhereIn good fields items) : items.length = fields.length := by
  induction fields generalizing items with
  | nil =>
    cases items with
    | nil => rfl
    | cons item rest => exact absurd all id
  | cons field fields ih =>
    cases items with
    | nil => exact absurd all id
    | cons item items => rw [List.length_cons, List.length_cons, ih items all.2]

end Everywhere

theorem matches_withNullable (type : DataType) (nullable : Bool) (value : Value) :
    Matches (type.withNullable nullable) value ↔ Matches type value := by
  cases type with
  | atom kind _ => cases kind <;> cases value <;> exact Iff.rfl
  | array _ _ | map _ _ _ => cases value <;> exact Iff.rfl
  | row fields _ =>
    cases value with
    | record r =>
      cases r with
      | positional shape _ => cases shape <;> exact Iff.rfl
      | named _ _ => exact Iff.rfl
    | _ => exact Iff.rfl

theorem matches_atom_cases (kind : Atom) (nullable : Bool) (value : Value) (present : value ≠ .null)
    (shape : Matches (.atom kind nullable) value) :
    (∃ precision d, kind = .decimal precision d.scale ∧ value = .decimal d) ∨
      (∀ precision scale, kind ≠ .decimal precision scale) ∧ kind.stores value = true := by
  cases kind with
  | decimal precision scale =>
    cases value with
    | decimal d =>
      cases shape
      exact .inl ⟨precision, d, rfl, rfl⟩
    | null => exact absurd rfl present
    | _ => cases shape
  | _ =>
    refine .inr ⟨fun _ _ => Atom.noConfusion, ?_⟩
    cases value with
    | null => exact absurd rfl present
    | _ => exact shape

/-! ## Conversion -/

theorem coerce_of_stores (kind : Atom) (value : Value)
    (whole : ∀ precision scale, kind ≠ .decimal precision scale)
    (stores : kind.stores value = true) : coerce? kind value = some value := by
  cases kind with
  | decimal precision scale => exact absurd rfl (whole precision scale)
  | null => cases value <;> cases stores
  | _ => cases value <;> first | rfl | cases stores

theorem coerce_decimal_unchanged (precision : UInt8) (d : Decimal) (stored : Value) :
    coerce? (.decimal precision d.scale) (.decimal d) = some stored ↔
      d.digits ≤ precision.toNat ∧ stored = .decimal d := by
  simp only [coerce?, d.rescale_self]
  by_cases short : d.digits ≤ precision.toNat
  · simp [short, eq_comm]
  · simp [short]

theorem convert_null_unchanged (index : Nat) (type : DataType) (path : String) (stored : Value) :
    convertValue index type path .null = .ok stored ↔
      Everywhere DigitsFit type .null ∧ stored = .null := by
  have fit : DigitsFit type .null := by
    cases type with
    | atom kind _ => cases kind <;> trivial
    | _ => trivial
  rw [convertValue_null, everywhere_null, Except.ok.injEq, eq_comm]
  exact (and_iff_right fit).symm

theorem convert_atom_unchanged (index : Nat) (kind : Atom) (nullable : Bool) (path : String)
    (value stored : Value) (present : value ≠ .null) (shape : Matches (.atom kind nullable) value) :
    convertValue index (.atom kind nullable) path value = .ok stored ↔
      DigitsFit (.atom kind nullable) value ∧ stored = value := by
  rw [convertValue_atom index kind nullable path value stored present]
  rcases matches_atom_cases kind nullable value present shape with
    ⟨precision, d, rfl, rfl⟩ | ⟨whole, stores⟩
  · exact coerce_decimal_unchanged precision d stored
  · have fit : DigitsFit (.atom kind nullable) value := by
      cases kind with
      | decimal precision scale => exact absurd rfl (whole precision scale)
      | _ => trivial
    rw [coerce_of_stores kind value whole stores, Option.some.injEq, eq_comm]
    exact (and_iff_right fit).symm

mutual

/-- A value of the kinds of its type is converted to itself or, for the digits of a
decimal, not at all. -/
theorem convert_unchanged (index : Nat) : (type : DataType) → (path : String) →
    (value stored : Value) → Everywhere Matches type value →
      (convertValue index type path value = .ok stored ↔
        Everywhere DigitsFit type value ∧ stored = value)
  | .atom kind nullable, path, value, stored, shape => by
    by_cases absent : value = .null
    · rw [absent]
      exact convert_null_unchanged index _ path stored
    · rw [everywhere_atom] at shape ⊢
      exact convert_atom_unchanged index kind nullable path value stored absent shape
  | .array element nullable, path, value, stored, shape => by
    cases value with
    | null => exact convert_null_unchanged index _ path stored
    | list items =>
      obtain ⟨_, each⟩ := shape
      have parts := mapEachFrom_unchanged
        (fun position v => convertValue index element (indexPath path position) v)
        (Everywhere DigitsFit element) items
        (fun item member position result =>
          convert_unchanged index element (indexPath path position) item result (each item member))
        0
      rw [convertValue_list_iff]
      constructor
      · rintro ⟨results, mapped, rfl⟩
        obtain ⟨fit, rfl⟩ := (parts results).mp mapped
        exact ⟨⟨trivial, fit⟩, rfl⟩
      · rintro ⟨⟨_, fit⟩, rfl⟩
        exact ⟨items, (parts items).mpr ⟨fit, rfl⟩, rfl⟩
    | _ => exact absurd shape id
  | .map key held nullable, path, value, stored, shape => by
    cases value with
    | null => exact convert_null_unchanged index _ path stored
    | map entries =>
      obtain ⟨_, each⟩ := shape
      have parts := mapEachFrom_unchanged (fun _ => convertEntry index key held path)
        (fun entry => Everywhere DigitsFit key entry.1 ∧ Everywhere DigitsFit held entry.2) entries
        (fun entry member _ result => by
          have first := convert_unchanged index key (keyPath path) entry.1 result.1
            (each entry member).1
          have second := convert_unchanged index held (valuePath path) entry.2 result.2
            (each entry member).2
          rw [convertEntry_ok_iff, first, second, Prod.ext_iff]
          exact and_and_and_comm)
        0
      rw [convertValue_map_iff]
      constructor
      · rintro ⟨results, mapped, rfl⟩
        obtain ⟨fit, rfl⟩ := (parts results).mp mapped
        exact ⟨⟨trivial, fit⟩, rfl⟩
      · rintro ⟨⟨_, fit⟩, rfl⟩
        exact ⟨entries, (parts entries).mpr ⟨fit, rfl⟩, rfl⟩
    | _ => exact absurd shape id
  | .row fields nullable, path, value, stored, shape => by
    cases value with
    | null => exact convert_null_unchanged index _ path stored
    | record r =>
      -- A stored record is a row without names; any other shape would change.
      cases r with
      | named _ _ => exact absurd shape.1 id
      | positional form items =>
        cases form with
        | tuple | sequence => exact absurd shape.1 id
        | row =>
          obtain ⟨_, each⟩ := shape
          have parts := convertFields_unchanged index fields (fields.map Prod.fst) [] path .row items
            (List.length_map _) each
          have width := length_of_everywhereIn fields items each
          have arity := (checkArity_ok_iff fields index path (.positional .row items)).mpr
            fun _ => width
          rw [convertValue_record_iff]
          constructor
          · rintro ⟨_, results, converted, rfl⟩
            obtain ⟨fit, rfl⟩ := (parts results).mp converted
            exact ⟨⟨trivial, fit⟩, rfl⟩
          · rintro ⟨⟨_, fit⟩, rfl⟩
            exact ⟨arity, items, (parts items).mpr ⟨fit, rfl⟩, rfl⟩
    | _ => exact absurd shape id

theorem convertFields_unchanged (index : Nat) : (fields : List Field) → (names : List String) →
    (before : List Value) → (path : String) → (form : Positional) → (items : List Value) →
    names.length = fields.length → EverywhereIn Matches fields items → ∀ results,
      convertFields index fields names before.length path (.positional form (before ++ items)) =
          .ok results ↔
        EverywhereIn DigitsFit fields items ∧ results = items
  | [], [], before, path, form, [], _, _ => by
    simp [convertFields, EverywhereIn, eq_comm]
  | (field, type) :: fields, name :: names, before, path, form, item :: items, named, shape => by
    intro results
    have found : (Record.positional form (before ++ item :: items)).valueAt name before.length =
        item := by
      simp [Record.valueAt, Record.lookup?]
    have first := convert_unchanged index type (fieldPath path field) item
    have later := convertFields_unchanged index fields names (before ++ [item]) path form items
      (Nat.succ.inj named) shape.2
    rw [List.append_assoc, List.singleton_append, List.length_append, List.length_singleton]
      at later
    rw [convertFields_cons_iff, found]
    constructor
    · rintro ⟨one, others, head, tail, rfl⟩
      obtain ⟨fitOne, rfl⟩ := (first one shape.1).mp head
      obtain ⟨fitOthers, rfl⟩ := (later others).mp tail
      exact ⟨⟨fitOne, fitOthers⟩, rfl⟩
    · rintro ⟨⟨fitOne, fitOthers⟩, rfl⟩
      exact ⟨item, items, (first item shape.1).mpr ⟨fitOne, rfl⟩,
        (later items).mpr ⟨fitOthers, rfl⟩, rfl⟩

end

/-! ## Verification -/

theorem conforms_null_iff (type : DataType) :
    conforms type .null = true ↔
      Everywhere DigitsFit type .null ∧ Everywhere NullAdmitted type .null := by
  have fit := (convert_null_unchanged 0 type "" .null).mp (convertValue_null 0 type "")
  rw [conforms_null, @everywhere_null NullAdmitted]
  exact (and_iff_right fit.1).symm

theorem conforms_atom_iff (kind : Atom) (nullable : Bool) (value : Value) (present : value ≠ .null)
    (shape : Matches (.atom kind nullable) value) :
    conforms (.atom kind nullable) value = true ↔
      DigitsFit (.atom kind nullable) value ∧ NullAdmitted (.atom kind nullable) value := by
  have admitted : NullAdmitted (.atom kind nullable) value := by
    cases value with
    | null => exact absurd rfl present
    | _ => trivial
  have whole : conforms (.atom kind nullable) value = kind.stores value := by
    cases value with
    | null => exact absurd rfl present
    | _ => rfl
  rw [whole, and_iff_left admitted]
  rcases matches_atom_cases kind nullable value present shape with
    ⟨precision, d, rfl, rfl⟩ | ⟨whole, stores⟩
  · simp [Atom.stores, DigitsFit]
  · have fit := (convert_atom_unchanged 0 kind nullable "" value value present shape).mp
      ((convertValue_atom 0 kind nullable "" value value present).mpr
        (coerce_of_stores kind value whole stores))
    exact iff_of_true stores fit.1

mutual

theorem conforms_iff_admitted : (type : DataType) → (value : Value) →
    Everywhere Matches type value →
      (conforms type value = true ↔
        Everywhere DigitsFit type value ∧ Everywhere NullAdmitted type value)
  | .atom kind nullable, value, shape => by
    by_cases absent : value = .null
    · rw [absent]
      exact conforms_null_iff _
    · rw [everywhere_atom] at shape ⊢
      rw [everywhere_atom]
      exact conforms_atom_iff kind nullable value absent shape
  | .array element nullable, value, shape => by
    cases value with
    | null => exact conforms_null_iff _
    | list items =>
      have each := fun item member => conforms_iff_admitted element item (shape.2 item member)
      rw [conforms, List.all_eq_true]
      constructor
      · intro good
        exact ⟨⟨trivial, fun item member => ((each item member).mp (good item member)).1⟩,
          trivial, fun item member => ((each item member).mp (good item member)).2⟩
      · rintro ⟨⟨_, fit⟩, _, admitted⟩ item member
        exact (each item member).mpr ⟨fit item member, admitted item member⟩
    | _ => exact absurd shape id
  | .map key held nullable, value, shape => by
    cases value with
    | null => exact conforms_null_iff _
    | map entries =>
      have first := fun entry member =>
        conforms_iff_admitted key entry.1 (shape.2 entry member).1
      have second := fun entry member =>
        conforms_iff_admitted held entry.2 (shape.2 entry member).2
      rw [conforms, List.all_eq_true]
      simp only [Bool.and_eq_true]
      constructor
      · intro good
        refine ⟨⟨trivial, fun entry member => ?_⟩, trivial, fun entry member => ?_⟩
        · exact ⟨((first entry member).mp (good entry member).1).1,
            ((second entry member).mp (good entry member).2).1⟩
        · exact ⟨((first entry member).mp (good entry member).1).2,
            ((second entry member).mp (good entry member).2).2⟩
      · rintro ⟨⟨_, fit⟩, _, admitted⟩ entry member
        exact ⟨(first entry member).mpr ⟨(fit entry member).1, (admitted entry member).1⟩,
          (second entry member).mpr ⟨(fit entry member).2, (admitted entry member).2⟩⟩
    | _ => exact absurd shape id
  | .row fields nullable, value, shape => by
    cases value with
    | null => exact conforms_null_iff _
    | record r =>
      have width : r.arity = fields.length := by
        rw [← r.values_length]
        exact length_of_everywhereIn fields r.values shape.2
      have parts := conformsFields_iff_admitted fields r.values shape.2
      rw [conforms, width, decide_eq_true rfl, Bool.true_and, parts]
      constructor
      · rintro ⟨fit, admitted⟩
        exact ⟨⟨trivial, fit⟩, trivial, admitted⟩
      · rintro ⟨⟨_, fit⟩, _, admitted⟩
        exact ⟨fit, admitted⟩
    | _ => exact absurd shape id

theorem conformsFields_iff_admitted : (fields : List Field) → (items : List Value) →
    EverywhereIn Matches fields items →
      (conformsFields fields items = true ↔
        EverywhereIn DigitsFit fields items ∧ EverywhereIn NullAdmitted fields items)
  | [], [], _ => by simp [conformsFields, EverywhereIn]
  | (field, type) :: fields, item :: items, shape => by
    rw [conformsFields, Bool.and_eq_true, conforms_iff_admitted type item shape.1,
      conformsFields_iff_admitted fields items shape.2]
    exact and_and_and_comm

end

/-- A value of the kinds of its type verifies exactly if its decimals have no more digits
than their columns and its nulls are admitted. -/
theorem verify_iff_admitted (index : Nat) (type : DataType) (path : String) (value : Value)
    (shape : Everywhere Matches type value) :
    verifyValue index type path value = .ok () ↔
      Everywhere DigitsFit type value ∧ Everywhere NullAdmitted type value := by
  rw [verifyValue_ok_iff, ← conforms_iff_admitted type value shape]
  constructor
  · intro fit
    obtain ⟨stored, converted, good⟩ := convertValue_of_fits index type path value fit
    obtain ⟨_, rfl⟩ := (convert_unchanged index type path value stored shape).mp converted
    exact good
  · intro good
    have fit := ((conforms_iff_admitted type value shape).mp good).1
    exact fits_of_conforming index type path value value
      ((convert_unchanged index type path value value shape).mpr ⟨fit, rfl⟩) good

/-! ## Records -/

theorem convertUnder_unchanged (index : Nat) (fields : List Field) (names : List String)
    (form : Positional) (items : List Value) (named : names.length = fields.length)
    (shape : EverywhereIn Matches fields items) (row : Row) :
    convertUnder fields names index (.positional form items) = .ok row ↔
      EverywhereIn DigitsFit fields items ∧ row = items := by
  have width := length_of_everywhereIn fields items shape
  have arity := (checkArity_ok_iff fields index "" (.positional form items)).mpr fun _ => width
  rw [convertUnder, arity]
  exact convertFields_unchanged index fields names [] "" form items named shape row

theorem verifyUnder_iff_admitted (index : Nat) (fields : List Field) (names : List String)
    (form : Positional) (items : List Value) (named : names.length = fields.length)
    (shape : EverywhereIn Matches fields items) :
    verifyUnder fields names index (.positional form items) = .ok () ↔
      EverywhereIn DigitsFit fields items ∧ EverywhereIn NullAdmitted fields items := by
  have width := length_of_everywhereIn fields items shape
  rw [verifyUnder_ok_iff, recordFits_iff_convert fields names index _ named,
    ← conformsFields_iff_admitted fields items shape]
  constructor
  · rintro ⟨row, converted, good⟩
    obtain ⟨_, rfl⟩ := (convertUnder_unchanged index fields names form items named shape row).mp
      converted
    exact (conformsFields_iff fields row width).mpr good
  · intro good
    have fit := ((conformsFields_iff_admitted fields items shape).mp good).1
    exact ⟨items, (convertUnder_unchanged index fields names form items named shape items).mpr
      ⟨fit, rfl⟩, (conformsFields_iff fields items width).mp good⟩

end TableLoad

import TableLoad.Proofs.Inference.Soundness

/-!
# The first record that does not fit

Inference takes the records one after the other, and what it keeps of them are the types
of the columns.  A record is blamed when it differs from the first one in shape, width or
names, or when one of its types cannot be joined; records after it are never looked at.
-/

set_option autoImplicit false

namespace TableLoad

/-! ## Errors that blame a record -/

/-- The record that an error blames.  The other errors are about the records as a whole or
about the schema they would have. -/
def InferenceError.record? : InferenceError → Option Nat
  | .shapeMismatch record _ _ => some record
  | .arityMismatch record _ _ => some record
  | .fieldSetMismatch record _ _ => some record
  | .typeMismatch record _ _ _ => some record
  | .emptyInput => none
  | .nameHintMismatch _ _ => none
  | .undetermined _ => none
  | .schema _ => none

/-- Two types of one place cannot be joined, and the record is blamed. -/
def InferenceError.IsTypeMismatch (record : Nat) (cause : InferenceError) : Prop :=
  ∃ field existing found, cause = .typeMismatch record field existing found

theorem record_of_typeMismatch (record : Nat) (cause : InferenceError)
    (mismatch : cause.IsTypeMismatch record) : cause.record? = some record := by
  obtain ⟨field, existing, found, rfl⟩ := mismatch
  rfl

theorem joinAt_yields (record : Nat) (path : String) (existing found : DataType) :
    Yields (InferenceError.IsTypeMismatch record) (fun _ => True)
      (joinAt record path existing found) := by
  unfold joinAt
  split
  · trivial
  · exact ⟨path, existing, found, rfl⟩

mutual

theorem inferValue_yields (record : Nat) : (path : String) → (value : Value) →
    Yields (InferenceError.IsTypeMismatch record) (fun _ => True) (inferValue record path value)
  | path, .list items => by
    rw [inferValue]
    exact yields_pure (inferItems_yields record (elementPath path) .unobserved items)
  | path, .map entries => by
    rw [inferValue]
    exact yields_pure (inferPairs_yields record path .unobserved .unobserved entries)
  | path, .record (.positional _ items) => by
    rw [inferValue]
    exact yields_pure (inferMembers_yields record path 0 items)
  | path, .record (.named _ entries) => by
    rw [inferValue]
    exact yields_pure (inferEntries_yields record path entries)
  | _, .null | _, .bool _ | _, .int _ | _, .long _ | _, .float _ | _, .double _
  | _, .decimal _ | _, .string _ | _, .bytes _ | _, .date _ | _, .time _ | _, .timestamp _
  | _, .duration _ => trivial

theorem inferItems_yields (record : Nat) (path : String) : (seen : DataType) →
    (items : List Value) →
    Yields (InferenceError.IsTypeMismatch record) (fun _ => True)
      (inferItems record path seen items)
  | _, [] => trivial
  | seen, item :: rest => by
    rw [inferItems]
    refine yields_bind (inferValue_yields record path item) fun found _ => ?_
    refine yields_bind (joinAt_yields record path seen found) fun joined _ => ?_
    exact inferItems_yields record path joined rest

theorem inferPairs_yields (record : Nat) (path : String) : (key held : DataType) →
    (entries : List (Value × Value)) →
    Yields (InferenceError.IsTypeMismatch record) (fun _ => True)
      (inferPairs record path key held entries)
  | _, _, [] => trivial
  | key, held, (k, v) :: rest => by
    rw [inferPairs]
    refine yields_bind (inferValue_yields record (keyPath path) k) fun found _ => ?_
    refine yields_bind (joinAt_yields record (keyPath path) key found) fun joinedKey _ => ?_
    refine yields_bind (inferValue_yields record (valuePath path) v) fun found _ => ?_
    refine yields_bind (joinAt_yields record (valuePath path) held found) fun joined _ => ?_
    exact inferPairs_yields record path joinedKey joined rest

theorem inferMembers_yields (record : Nat) (path : String) : (position : Nat) →
    (items : List Value) →
    Yields (InferenceError.IsTypeMismatch record) (fun _ => True)
      (inferMembers record path position items)
  | _, [] => trivial
  | position, item :: rest => by
    rw [inferMembers]
    refine yields_bind (inferValue_yields record _ item) fun _ _ => ?_
    exact yields_pure (inferMembers_yields record path (position + 1) rest)

theorem inferEntries_yields (record : Nat) (path : String) : (entries : List (String × Value)) →
    Yields (InferenceError.IsTypeMismatch record) (fun _ => True)
      (inferEntries record path entries)
  | [] => trivial
  | (name, item) :: rest => by
    rw [inferEntries]
    refine yields_bind (inferValue_yields record (memberPath path name) item) fun _ _ => ?_
    exact yields_pure (inferEntries_yields record path rest)

end

theorem observeColumns_yields (index : Nat) (record : Record) (position : Nat)
    (columns : List Column) :
    Yields (InferenceError.IsTypeMismatch index) (fun _ => True)
      (observeColumns index record position columns) := by
  induction columns generalizing position with
  | nil => trivial
  | cons column rest ih =>
    rw [observeColumns]
    refine yields_bind (inferValue_yields index column.name _) fun found _ => ?_
    refine yields_bind (joinAt_yields index column.name column.type found) fun _ _ => ?_
    exact yields_pure (ih (position + 1))

theorem checkShape_yields (index : Nat) (first record : Record) :
    Yields (fun cause => cause.record? = some index) (fun _ => True)
      (checkShape index first record) := by
  unfold checkShape
  split
  · rfl
  · split
    · rfl
    · split
      · split
        · trivial
        · rfl
      · trivial

/-! ## One record after the other -/

def observeRecord (first : Record) (index : Nat) (columns : List Column) (record : Record) :
    Except InferenceError (List Column) := do
  checkShape index first record
  observeColumns index record 0 columns

theorem observeRecord_yields (first : Record) (index : Nat) (columns : List Column)
    (record : Record) :
    Yields (fun cause => cause.record? = some index) (fun _ => True)
      (observeRecord first index columns record) := by
  refine yields_bind (checkShape_yields index first record) fun _ _ => ?_
  exact yields_mono (record_of_typeMismatch index) (fun _ _ => trivial)
    (observeColumns_yields index record 0 columns)

theorem observeRecords_cons (first : Record) (index : Nat) (columns : List Column)
    (record : Record) (rest : List Record) :
    observeRecords first index columns (record :: rest) =
      observeRecord first index columns record >>= fun seen =>
        observeRecords first (index + 1) seen rest := by
  rw [observeRecords, observeRecord]
  cases checkShape index first record <;> rfl

theorem observeRecords_append (first : Record) (front back : List Record) (index : Nat)
    (columns : List Column) :
    observeRecords first index columns (front ++ back) =
      observeRecords first index columns front >>= fun seen =>
        observeRecords first (index + front.length) seen back := by
  induction front generalizing index columns with
  | nil => rfl
  | cons record rest ih =>
    have count : index + 1 + rest.length = index + (record :: rest).length := by
      rw [List.length_cons]
      omega
    rw [List.cons_append, observeRecords_cons, observeRecords_cons]
    cases observeRecord first index columns record with
    | error cause => rfl
    | ok seen =>
      rw [← count]
      exact ih (index + 1) seen

/-- A failure blames the record it happened at: the records before it leave columns, and
with this one there are none. -/
theorem observeRecords_stops (first : Record) (records : List Record) (index : Nat)
    (columns : List Column) (cause : InferenceError)
    (stopped : observeRecords first index columns records = .error cause) :
    ∃ place, cause.record? = some (index + place) ∧ place < records.length ∧
      (∃ seen, observeRecords first index columns (records.take place) = .ok seen) ∧
      observeRecords first index columns (records.take (place + 1)) = .error cause := by
  induction records generalizing index columns with
  | nil => cases stopped
  | cons record rest ih =>
    rw [observeRecords_cons, bind_eq_error_iff] at stopped
    rcases stopped with here | ⟨fitted, fits, later⟩
    · have blamed := observeRecord_yields first index columns record
      rw [here] at blamed
      refine ⟨0, blamed, Nat.zero_lt_succ _, ⟨columns, rfl⟩, ?_⟩
      rw [List.take_succ_cons, observeRecords_cons, here]
      rfl
    · obtain ⟨place, blamed, inside, ⟨seen, before⟩, fails⟩ := ih (index + 1) fitted later
      rw [Nat.add_assoc, Nat.add_comm 1] at blamed
      refine ⟨place + 1, blamed, Nat.succ_lt_succ inside, ⟨seen, ?_⟩, ?_⟩
      · rw [List.take_succ_cons, observeRecords_cons, fits]
        exact before
      · rw [List.take_succ_cons, observeRecords_cons, fits]
        exact fails

/-! ## Whole inferences -/

theorem outputNames_yields (names : Option (List String)) (first : Record) :
    Yields (fun cause => cause.record? = none) (fun _ => True) (outputNames names first) := by
  unfold outputNames
  split
  · trivial
  · split
    · trivial
    · rfl

theorem finishColumns_yields (columns : List Column) :
    Yields (fun cause => cause.record? = none) (fun _ => True) (finishColumns columns) := by
  induction columns with
  | nil => trivial
  | cons column rest ih =>
    rw [finishColumns]
    split
    · exact yields_pure ih
    · rfl

theorem schema_of_columns_yields (columns : List Column) :
    Yields (fun cause => cause.record? = none) (fun _ => True)
      (finishColumns columns >>= fun fields => liftSchema (Schema.ofFields fields)) := by
  refine yields_bind (finishColumns_yields columns) fun fields _ => ?_
  cases Schema.ofFields fields with
  | ok schema => trivial
  | error fault => rfl

theorem inferSchema_names (records : List Record) (names : Option (List String)) :
    inferSchema records (names.map .names) = inferRecords names records := by
  cases names <;> rfl

theorem observeRecords_of_blamed {names : Option (List String)} {first : Record}
    {rest : List Record} {cause : InferenceError} {k : Nat}
    (failed : inferRecords names (first :: rest) = .error cause)
    (blamed : cause.record? = some k) :
    ∃ output, outputNames names first = .ok output ∧
      observeRecords first 0 (freshColumns first output) (first :: rest) = .error cause := by
  rw [inferRecords, bind_eq_error_iff] at failed
  rcases failed with hint | ⟨output, named, failed⟩
  · have unblamed := outputNames_yields names first
    rw [hint] at unblamed
    cases unblamed.symm.trans blamed
  rw [bind_eq_error_iff] at failed
  rcases failed with seen | ⟨columns, _, failed⟩
  · exact ⟨output, named, seen⟩
  · have unblamed := schema_of_columns_yields columns
    rw [failed] at unblamed
    cases unblamed.symm.trans blamed

theorem inferRecords_of_observed {names : Option (List String)} {first : Record}
    {rest : List Record} {output : List String} (named : outputNames names first = .ok output) :
    inferRecords names (first :: rest) =
      observeRecords first 0 (freshColumns first output) (first :: rest) >>= fun columns =>
        finishColumns columns >>= fun fields => liftSchema (Schema.ofFields fields) := by
  rw [inferRecords, named]
  rfl

/-- Records that begin with some that fail among themselves fail alike. -/
theorem inferRecords_of_stopped {names : Option (List String)} {first : Record}
    {tail : List Record} {output : List String} {cause : InferenceError}
    (named : outputNames names first = .ok output)
    (stopped : observeRecords first 0 (freshColumns first output) (first :: tail) = .error cause)
    (more : List Record) : inferRecords names (first :: tail ++ more) = .error cause := by
  rw [List.cons_append, inferRecords_of_observed named, ← List.cons_append,
    observeRecords_append, stopped]
  rfl

/-- An error that blames a record is decided by the records up to this one, whatever comes
after them, and the records before it give no cause to blame any. -/
theorem blamed_record_is_first (names : Option (List String)) (records : List Record)
    (cause : InferenceError) (k : Nat)
    (failed : inferSchema records (names.map .names) = .error cause)
    (blamed : cause.record? = some k) :
    k < records.length ∧
      (∀ others : List Record, others.take (k + 1) = records.take (k + 1) →
        inferSchema others (names.map .names) = .error cause) ∧
      ∀ other, inferSchema (records.take k) (names.map .names) = .error other →
        other.record? = none := by
  simp only [inferSchema_names] at failed ⊢
  cases records with
  | nil =>
    cases failed
    cases blamed
  | cons first rest =>
    obtain ⟨output, named, stopped⟩ := observeRecords_of_blamed failed blamed
    obtain ⟨place, at_, inside, ⟨seen, before⟩, upTo⟩ :=
      observeRecords_stops first (first :: rest) 0 (freshColumns first output) cause stopped
    rw [Nat.zero_add, blamed, Option.some.injEq] at at_
    subst place
    refine ⟨inside, ?_, ?_⟩
    · intro others same
      rw [← List.take_append_drop (k + 1) others, same]
      exact inferRecords_of_stopped named upTo (others.drop (k + 1))
    · intro other alone
      cases k with
      | zero =>
        cases alone
        rfl
      | succ k =>
        rw [List.take_succ_cons, inferRecords_of_observed named, ← List.take_succ_cons, before]
          at alone
        change (finishColumns seen >>= fun fields => liftSchema (Schema.ofFields fields)) = _
          at alone
        have unblamed := schema_of_columns_yields seen
        rwa [alone] at unblamed

/-- Orders with their positions, of which the third gives a number for an article. -/
def listedOrders : List Record :=
  [.positional .tuple [.int 7, .list [.record (.named .mapping [("article", .string "A7")])]],
    .positional .tuple [.null, .list []],
    .positional .tuple [.long 5000000000, .list [.record (.named .mapping [("article", .int 3)])]],
    .positional .sequence [.int 9]]

def articleMismatch : InferenceError :=
  .typeMismatch 2 "positions" (.array (.row [("article", .atom .string false)] false) false)
    (.array (.row [("article", .atom .int false)] false) false)

theorem numbered_article_blamed :
    inferSchema listedOrders (some (.names ["number", "positions"])) = .error articleMismatch ∧
      (∀ others : List Record, others.take 3 = listedOrders.take 3 →
        inferSchema others (some (.names ["number", "positions"])) = .error articleMismatch) ∧
      ∀ other,
        inferSchema (listedOrders.take 2) (some (.names ["number", "positions"])) = .error other →
          other.record? = none := by
  have failed : inferSchema listedOrders (some (.names ["number", "positions"])) =
      .error articleMismatch := rfl
  obtain ⟨_, decided, unblamed⟩ :=
    blamed_record_is_first (some ["number", "positions"]) listedOrders articleMismatch 2 failed rfl
  exact ⟨failed, decided, unblamed⟩

end TableLoad

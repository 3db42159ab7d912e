import TableLoad.Batch.Reader
import TableLoad.Proofs.Batch.Values
import TableLoad.Proofs.Conversion.Agreement

/-!
# Frames read back

What a reader makes of rows that were written, whether or not its columns take them:
all of them, or the first value that does not conform or holds a time off the clock.
-/

set_option autoImplicit false

namespace TableLoad.Batch

open Value

/-! ## Rows -/

/-- The row can be written for the columns and nests no deeper than rows are
read. -/
structure Storable (fields : List Field) (row : Row) : Prop where
  width : row.length = fields.length
  short : itemsTooLong? row = none
  shallow : itemsDepth row ≤ maxNesting

/-- The column stores the value, and every time in it is on the clock. -/
def fits (type : DataType) (value : Value) : Bool :=
  conforms type value && (offClock? value).isNone

def RowFits (fields : List Field) (row : Row) : Prop :=
  List.Forall₂ (fun field value => fits field.2 value = true) fields row

theorem rowFits_iff (fields : List Field) (row : Row) :
    RowFits fields row ↔ RowConforms fields row ∧ itemsOffClock? row = none := by
  unfold RowFits RowConforms
  induction fields generalizing row with
  | nil =>
    cases row with
    | nil => simp [itemsOffClock?]
    | cons value row => simp
  | cons field fields ih =>
    cases row with
    | nil => simp
    | cons value row =>
      rw [List.forall₂_cons, List.forall₂_cons, ih, itemsOffClock?, Option.or_eq_none_iff, fits,
        Bool.and_eq_true, Option.isNone_iff_eq_none]
      constructor
      · rintro ⟨⟨fit, on⟩, others, later⟩
        exact ⟨⟨fit, others⟩, on, later⟩
      · rintro ⟨⟨fit, others⟩, on, later⟩
        exact ⟨⟨fit, on⟩, others, later⟩

/-- The first field that does not take the value at its place, and the value. -/
def misfit? : List Field → Row → Option (Field × Value)
  | field :: fields, value :: row =>
    if fits field.2 value then misfit? fields row else some (field, value)
  | _, _ => none

theorem misfit_eq_none (fields : List Field) (row : Row) (width : row.length = fields.length) :
    misfit? fields row = none ↔ RowFits fields row := by
  induction fields generalizing row with
  | nil =>
    have empty : row = [] := by simpa using width
    subst empty
    simp [misfit?, RowFits]
  | cons field fields ih =>
    cases row with
    | nil => simp at width
    | cons value row =>
      have tail := ih row (by simpa using width)
      unfold RowFits at tail ⊢
      cases fit : fits field.2 value <;> simp [misfit?, fit, tail]

/-- What is reported about a value that a column does not take: first of all a time off
the clock, and then that it does not conform. -/
def misfitIn (index : Nat) (misfit : Field × Value) : Corruption :=
  (offClock? misfit.2).getD
    (.nonConforming index misfit.1.1 misfit.2.describe misfit.1.2)

theorem describe_unnamed (value : Value) : value.unnamed.describe = value.describe := by
  cases value with
  | list items => simp [unnamed, describe, unnamedItems_length]
  | map entries => simp [unnamed, describe, unnamedPairs_eq_map]
  | record r => simp [unnamed_record, describe, Record.arity, unnamedItems_length, r.values_length]
  | _ => simp [unnamed]

theorem decodeFields_written (index : Nat) (fields : List Field) (row : Row) (rest : List UInt8)
    (storable : Storable fields row) :
    decodeFields index fields (encodeRow row ++ rest) =
      match misfit? fields row with
      | none => .ok (row.unnamed, rest)
      | some misfit => .error (misfitIn index misfit) := by
  induction fields generalizing row with
  | nil =>
    have empty : row = [] := by simpa using storable.width
    subst empty
    rfl
  | cons field fields ih =>
    cases row with
    | nil => simpa using storable.width
    | cons value row =>
      obtain ⟨width, short, shallow⟩ := storable
      simp only [itemsTooLong?, Option.or_eq_none_iff] at short
      simp only [itemsDepth] at shallow
      have first : decodeValue (encode value ++ (encodeRow row ++ rest)) =
          (offClock? value).elim (.ok (value.unnamed, encodeRow row ++ rest)) .error :=
        meets_value value maxNesting (by omega) short.1 _
      have later := ih row ⟨by simpa using width, short.2, by omega⟩
      have whole : encodeRow (value :: row) ++ rest = encode value ++ (encodeRow row ++ rest) := by
        simp [encodeRow, encodeItems]
      rw [whole, decodeFields]
      cases off : offClock? value with
      | some cause =>
        rw [off] at first
        rw [bind_of_error _ first]
        simp [misfit?, fits, misfitIn, off]
      | none =>
        rw [off] at first
        rw [bind_of_ok _ first, conforms_unnamed]
        cases fit : conforms field.2 value with
        | false => simp [misfit?, fits, fit, misfitIn, off, describe_unnamed, throw, throwThe,
            MonadExceptOf.throw, StateT.lift]
        | true =>
          have taken : fits field.2 value = true := by simp [fits, fit, off]
          simp only [misfit?, taken, if_true]
          cases bad : misfit? fields row with
          | none =>
            rw [bad] at later
            exact bind_of_ok _ later
          | some misfit =>
            rw [bad] at later
            exact bind_of_error _ later

/-- The first row with a misfit, counted from `index`, and its misfit. -/
def firstMisfit? (fields : List Field) (index : Nat) : List Row → Option (Nat × Field × Value)
  | [] => none
  | row :: rest =>
    match misfit? fields row with
    | some misfit => some (index, misfit)
    | none => firstMisfit? fields (index + 1) rest

theorem firstMisfit_eq_none (fields : List Field) (index : Nat) (rows : List Row)
    (widths : ∀ row ∈ rows, row.length = fields.length) :
    firstMisfit? fields index rows = none ↔ ∀ row ∈ rows, RowFits fields row := by
  induction rows generalizing index with
  | nil => simp [firstMisfit?]
  | cons row rest ih =>
    have first := misfit_eq_none fields row (widths row List.mem_cons_self)
    have later := ih (index + 1) fun other member => widths other (List.mem_cons_of_mem row member)
    cases bad : misfit? fields row with
    | none => simp [firstMisfit?, bad, later, first.mp bad]
    | some misfit =>
      have refused : ¬RowFits fields row := fun good => by
        rw [first.mpr good] at bad
        cases bad
      simp [firstMisfit?, bad, refused]

/-- Why a reader refuses rows for a time off the clock, the first one in them. -/
def rowsOffClock? (rows : List Row) : Option Corruption :=
  rows.findSome? itemsOffClock?

theorem rowsOffClock_eq_none (rows : List Row) :
    rowsOffClock? rows = none ↔ ∀ row ∈ rows, itemsOffClock? row = none :=
  List.findSome?_eq_none_iff

theorem rowsOffClock_append (front back : List Row) :
    rowsOffClock? (front ++ back) = (rowsOffClock? front).or (rowsOffClock? back) :=
  List.findSome?_append

theorem rowsFit_iff (fields : List Field) (rows : List Row) :
    (∀ row ∈ rows, RowFits fields row) ↔
      (∀ row ∈ rows, RowConforms fields row) ∧ rowsOffClock? rows = none := by
  simp only [rowFits_iff, rowsOffClock_eq_none, forall_and]

theorem misfit_of_conforms (index : Nat) (fields : List Field) (row : Row)
    (conform : RowConforms fields row) :
    (misfit? fields row).map (misfitIn index) = itemsOffClock? row := by
  unfold RowConforms at conform
  induction conform with
  | nil => rfl
  | @cons field value fields row fit _ ih =>
    cases off : offClock? value with
    | none => simpa [misfit?, fits, fit, off, itemsOffClock?] using ih
    | some cause => simp [misfit?, fits, fit, off, itemsOffClock?, misfitIn]

theorem firstMisfit_of_conforms (index : Nat) (fields : List Field) (rows : List Row)
    (conform : ∀ row ∈ rows, RowConforms fields row) :
    (firstMisfit? fields index rows).map (fun found => misfitIn found.1 found.2) =
      rowsOffClock? rows := by
  induction rows generalizing index with
  | nil => rfl
  | cons row rest ih =>
    have first := misfit_of_conforms index fields row (conform row List.mem_cons_self)
    have later := ih (index + 1) fun other member => conform other (List.mem_cons_of_mem row member)
    rw [rowsOffClock?, List.findSome?_cons, ← first, firstMisfit?]
    cases misfit? fields row with
    | none => exact later
    | some misfit => rfl

theorem decodeRows_written (fields : List Field) (index : Nat) (rows : List Row)
    (rest : List UInt8) (storable : ∀ row ∈ rows, Storable fields row) :
    decodeRows fields rows.length index (rows.flatMap encodeRow ++ rest) =
      match firstMisfit? fields index rows with
      | none => (.ok (rows.map Row.unnamed, rest), index + rows.length)
      | some (bad, misfit) => (.error (misfitIn bad misfit), bad) := by
  induction rows generalizing index with
  | nil => rfl
  | cons row others ih =>
    have first := decodeFields_written index fields row (others.flatMap encodeRow ++ rest)
      (storable row List.mem_cons_self)
    have later := ih (index + 1) fun other member => storable other (List.mem_cons_of_mem row member)
    rw [List.flatMap_cons, List.append_assoc, List.length_cons, decodeRows, first]
    -- The first misfit ends the frame, so later rows count only behind a row without one.
    cases bad : misfit? fields row with
    | some misfit => simp [firstMisfit?, bad]
    | none =>
      simp only [firstMisfit?, bad, later]
      cases firstMisfit? fields (index + 1) others with
      | none => simp; omega
      | some found => rfl

theorem decodeFrame_written (fields : List Field) (index : Nat) (rows : List Row)
    (count : rows.length < 2 ^ 32) (storable : ∀ row ∈ rows, Storable fields row) :
    decodeFrame fields index (lengthBytes rows.length ++ rows.flatMap encodeRow) =
      match firstMisfit? fields index rows with
      | none => (.ok (rows.map Row.unnamed), index + rows.length)
      | some (bad, misfit) => (.error (misfitIn bad misfit), bad) := by
  have size : (lengthBytes rows.length).length = 4 := bigEndian_length 4 _
  have read := decodeRows_written fields index rows [] storable
  rw [List.append_nil] at read
  rw [decodeFrame, List.take_left' size, List.drop_left' size, lengthBytes,
    ofBigEndian_bigEndian 4 _ count, read]
  cases firstMisfit? fields index rows with
  | none => rfl
  | some found => rfl

/-! ## Frames -/

/-- The rows of one frame together with what the writer adds fit into it. -/
structure Fitting (group : List Row) : Prop where
  count : group.length < 2 ^ 32
  bytes : (group.flatMap encodeRow).length + 4 ≤ maxFrameBytes

def frameOf (group : List Row) : List UInt8 :=
  frame group.length (group.flatMap encodeRow)

theorem nextFrame_written (reader : Reader) (group : List Row) (others : List UInt8)
    (unfinished : reader.finished = false) (left : reader.rest = frameOf group ++ others)
    (fitting : Fitting group) (storable : ∀ row ∈ group, Storable reader.schema.fields row) :
    reader.nextFrame =
      match firstMisfit? reader.schema.fields reader.rowsRead group with
      | none =>
        (.ok (some (group.map Row.unnamed)),
          { reader with rest := others, rowsRead := reader.rowsRead + group.length })
      | some (bad, misfit) =>
        (.error (misfitIn bad misfit), { reader with rest := others, rowsRead := bad }) := by
  obtain ⟨count, bytes⟩ := fitting
  have limit : maxFrameBytes < 256 ^ 4 := by decide
  have size : (lengthBytes ((group.flatMap encodeRow).length + 4)).length = 4 :=
    bigEndian_length 4 _
  have front : splitExact 4 reader.rest =
      some (lengthBytes ((group.flatMap encodeRow).length + 4),
        (lengthBytes group.length ++ group.flatMap encodeRow) ++ others) := by
    have split := splitExact_append (lengthBytes ((group.flatMap encodeRow).length + 4))
      ((lengthBytes group.length ++ group.flatMap encodeRow) ++ others)
    rw [size] at split
    rw [left, frameOf, frame, List.append_assoc, split]
  have back : splitExact ((group.flatMap encodeRow).length + 4)
      ((lengthBytes group.length ++ group.flatMap encodeRow) ++ others) =
        some (lengthBytes group.length ++ group.flatMap encodeRow, others) := by
    have split := splitExact_append (lengthBytes group.length ++ group.flatMap encodeRow) others
    have whole : (lengthBytes group.length ++ group.flatMap encodeRow).length =
        (group.flatMap encodeRow).length + 4 := by
      rw [List.length_append, lengthBytes, bigEndian_length, Nat.add_comm]
    rwa [whole] at split
  have number : ofBigEndian (lengthBytes ((group.flatMap encodeRow).length + 4)) =
      (group.flatMap encodeRow).length + 4 := ofBigEndian_bigEndian 4 _ (by omega)
  have read := decodeFrame_written reader.schema.fields reader.rowsRead group count storable
  have positive : (group.flatMap encodeRow).length + 4 ≠ 0 := by omega
  have bounds : ((group.flatMap encodeRow).length + 4 < 4 ||
      maxFrameBytes < (group.flatMap encodeRow).length + 4) = false := by
    simp only [Bool.or_eq_false_iff, decide_eq_false_iff_not]
    omega
  simp only [Reader.nextFrame, unfinished, front, number, if_neg positive, bounds, back, read]
  cases firstMisfit? reader.schema.fields reader.rowsRead group with
  | none => rfl
  | some found => rfl

theorem nextFrame_conforming (reader : Reader) (group : List Row) (others : List UInt8)
    (unfinished : reader.finished = false) (left : reader.rest = frameOf group ++ others)
    (fitting : Fitting group) (storable : ∀ row ∈ group, Storable reader.schema.fields row)
    (conform : ∀ row ∈ group, RowConforms reader.schema.fields row) :
    ∃ rowsRead, reader.nextFrame =
      ((rowsOffClock? group).elim (.ok (some (group.map Row.unnamed))) .error,
        { reader with rest := others, rowsRead }) := by
  have causes := firstMisfit_of_conforms reader.rowsRead reader.schema.fields group conform
  have step := nextFrame_written reader group others unfinished left fitting storable
  rw [step, ← causes]
  cases firstMisfit? reader.schema.fields reader.rowsRead group with
  | none => exact ⟨_, rfl⟩
  | some found => exact ⟨_, rfl⟩

end TableLoad.Batch

import TableLoad.Inference
import TableLoad.Proofs.Batch.RoundTrip
import TableLoad.Proofs.DataType.Semilattice
import TableLoad.Proofs.Schema.Depth

/-!
# Which written batches can be opened

A writer puts every schema into the header, however deep it is, while a reader
follows its document only so far.  Every list in a value takes three levels of
it, so a schema inferred from deeply nested lists is written and cannot be read.
-/

set_option autoImplicit false

namespace TableLoad

/-! ## Nested lists -/

def Value.nested (value : Value) : (layers : Nat) → Value
  | 0 => value
  | layers + 1 => .list [value.nested layers]

def DataType.nested (type : DataType) : (layers : Nat) → DataType
  | 0 => type
  | layers + 1 => .array (type.nested layers) false

theorem DataType.levels_nested (type : DataType) (layers : Nat) :
    (type.nested layers).toJson.openLevels = type.toJson.openLevels + 3 * layers := by
  induction layers with
  | zero => rfl
  | succ layers ih =>
    simp only [nested, toJson, levels_jsonOf, Json.struct, Json.openLevels, Json.membersLevels,
      List.map, ih]
    omega

theorem DataType.length_nested (type : DataType) (layers : Nat) :
    (type.nested layers).toJson.render.length = type.toJson.render.length + 48 * layers := by
  induction layers with
  | zero => rfl
  | succ layers ih =>
    simp [nested, toJson, jsonOf, Json.struct, Json.render, Json.renderMembers, Json.bytesOf, ih,
      Json.length_words]
    omega

theorem inferValue_nested (record : Nat) (value : Value) (type : DataType)
    (inferred : ∀ path, inferValue record path value = .ok type) (layers : Nat) (path : String) :
    inferValue record path (value.nested layers) = .ok (type.nested layers) := by
  induction layers generalizing path with
  | zero => exact inferred path
  | succ layers ih =>
    simp [Value.nested, DataType.nested, inferValue, inferItems, ih, joinAt,
      DataType.unobserved_join, bind, Except.bind, pure, Except.pure]

theorem DataType.isResolved_nested (type : DataType) (layers : Nat) :
    (type.nested layers).isResolved = type.isResolved := by
  induction layers with
  | zero => rfl
  | succ layers ih => rw [nested, isResolved, ih]

theorem DataType.check_nested (type : DataType) (layers : Nat) :
    (type.nested layers).check = type.check := by
  induction layers with
  | zero => rfl
  | succ layers ih => rw [nested, check, ih]

theorem length_firstName : (Json.renderString (generatedName 0)).length = 4 := by
  decide

/-- One column of an integer inside a number of lists. -/
def Schema.ofLists (layers : Nat) : Schema where
  fields := [(generatedName 0, (DataType.atom .int false).nested layers)]
  wellFormed := by
    have checked := DataType.check_nested (.atom .int false) layers
    have named : generatedName 0 ≠ "" := by decide
    simp [DataType.checkFields, checked, named, DataType.check, Atom.check, bind, Except.bind]

theorem Schema.levels_ofLists (layers : Nat) : (ofLists layers).openLevels = 3 * layers + 3 := by
  simp [ofLists, openLevels, toJson, DataType.fieldsToJson, DataType.levels_nested,
    DataType.toJson, DataType.levels_jsonOf, Atom.toJson, Json.ofText, Json.struct,
    Json.openLevels, Json.itemsLevels, Json.membersLevels]
  omega

theorem Schema.length_ofLists (layers : Nat) :
    (ofLists layers).header.length = 48 * layers + 59 := by
  have nested := DataType.length_nested (.atom .int false) layers
  have base : (DataType.atom .int false).toJson.render.length = 31 := by decide
  simp [ofLists, header, toJson, DataType.fieldsToJson, Json.struct, Json.ofText, Json.render,
    Json.renderItems, Json.renderMembers, nested, base,
    Json.length_words, length_firstName]
  omega

theorem inferSchema_single (value : Value) (type : DataType)
    (inferred : inferValue 0 (generatedName 0) value = .ok type) (resolved : type.isResolved) :
    inferSchema [.positional .tuple [value]] none =
      liftSchema (Schema.ofFields [(generatedName 0, type)]) := by
  have observed : observeColumns 0 (.positional .tuple [value]) 0
      [⟨generatedName 0, generatedName 0, .unobserved⟩] =
        .ok [⟨generatedName 0, generatedName 0, type⟩] := by
    have found : (Record.positional .tuple [value]).valueAt (generatedName 0) 0 = value := rfl
    simp [observeColumns, found, inferred, joinAt, DataType.unobserved_join, bind, Except.bind,
      pure, Except.pure]
  have fresh : freshColumns (.positional .tuple [value]) [generatedName 0] =
      [⟨generatedName 0, generatedName 0, .unobserved⟩] := rfl
  have names : (Record.positional .tuple [value]).sourceNames = [generatedName 0] := rfl
  simp [inferSchema, inferRecords, outputNames, names, fresh, observeRecords, checkShape,
    Record.names?, observed, finishColumns, resolved, bind, Except.bind, pure, Except.pure]

theorem inferSchema_lists (n : Int32) (layers : Nat) :
    inferSchema [.positional .tuple [(Value.int n).nested layers]] none =
      .ok (Schema.ofLists layers) := by
  have inferred := inferValue_nested 0 (.int n) (.atom .int false) (fun _ => rfl) layers
  have resolved := DataType.isResolved_nested (.atom .int false) layers
  rw [inferSchema_single _ _ (inferred _) resolved]
  exact congrArg liftSchema (Schema.ofFields_fields (Schema.ofLists layers))

namespace Batch

/-! ## Opening -/

theorem Writer.bytes_fresh (schema : Schema) (batchSize : Nat) :
    (Writer.holding schema batchSize [] []).bytes = header schema := by
  simp [Writer.bytes, Writer.holding]

theorem Reader.start_header (schema : Schema) (short : schema.header.length < 2 ^ 32)
    (rest : List UInt8) :
    Reader.start (header schema ++ rest) =
      if maxFrameBytes < schema.header.length then
        .error (.headerLength schema.header.length)
      else if schema.openLevels ≤ DataType.maxOpen then
        .ok { schema, rest, rowsRead := 0, finished := false }
      else .error (.header .malformed) := by
  rw [Reader.start, StateT.run, decodeHeader_header schema short rest, Schema.ofHeader_own_header]
  by_cases heavy : maxFrameBytes < schema.header.length
  · rw [if_pos heavy, if_pos heavy]
    rfl
  rw [if_neg heavy, if_neg heavy]
  by_cases levels : schema.openLevels ≤ DataType.maxOpen
  · rw [if_pos levels, if_pos levels]
    rfl
  · rw [if_neg levels, if_neg levels]
    rfl

/-- What becomes of the header of any schema: too long to be written, too long to
be read, or read back as the schema exactly if it opens no more levels than a
reader follows. -/
theorem written_header_opening (schema : Schema) (batchSize : Nat) :
    match Writer.start schema batchSize with
    | .error refused => refused = .lengthTooLong "schema header" ∧ 2 ^ 32 ≤ schema.header.length
    | .ok writer =>
      schema.header.length < 2 ^ 32 ∧
        ∀ rest, Reader.start (writer.bytes ++ rest) =
          if maxFrameBytes < schema.header.length then
            .error (.headerLength schema.header.length)
          else if schema.openLevels ≤ DataType.maxOpen then
            .ok { schema, rest, rowsRead := 0, finished := false }
          else .error (.header .malformed) := by
  by_cases short : schema.header.length < 2 ^ 32
  · rw [Writer.start_ok schema batchSize short]
    refine ⟨short, fun rest => ?_⟩
    rw [Writer.bytes_fresh]
    exact Reader.start_header schema short rest
  · have long : isTooLong schema.header.length = true := by
      simpa [isTooLong] using short
    simp only [Writer.start, long, if_true]
    exact ⟨trivial, by omega⟩

theorem deep_lists_unreadable :
    inferSchema [.positional .tuple [(Value.int 7).nested 42]] none = .ok (Schema.ofLists 42) ∧
      ∃ writer, Writer.start (Schema.ofLists 42) defaultBatchSize = .ok writer ∧
        Reader.start writer.bytes = .error (.header .malformed) := by
  have size : (Schema.ofLists 42).header.length = 2075 := Schema.length_ofLists 42
  have deep : ¬ (Schema.ofLists 42).openLevels ≤ DataType.maxOpen := by
    rw [Schema.levels_ofLists]
    decide
  have opened := Reader.start_header (Schema.ofLists 42) (by omega) []
  rw [if_neg (by rw [maxFrameBytes, size]; omega), if_neg deep, List.append_nil] at opened
  refine ⟨inferSchema_lists 7 42, _, Writer.start_ok _ _ (by omega), ?_⟩
  rw [Writer.bytes_fresh, opened]

end Batch

end TableLoad

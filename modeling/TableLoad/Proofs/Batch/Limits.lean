import TableLoad.Proofs.Batch.Misfits
import TableLoad.Proofs.Batch.Opening

/-!
# What a batch that went through tells

A batch that was written and read without an error kept within all limits: its header
could be written and read, and so could every frame.
-/

set_option autoImplicit false

namespace TableLoad.Batch

/-- The rows can be written under the schema, in frames that are not too large. -/
structure Writable (schema : Schema) (batchSize : Nat) (rows : List Row) : Prop where
  header : schema.header.length < 2 ^ 32
  widths : ∀ row ∈ rows, row.length = schema.size
  short : ∀ row ∈ rows, itemsTooLong? row = none
  frames : ∀ group ∈ frameGroups batchSize rows,
    (group.flatMap encodeRow).length + 4 ≤ maxFrameBytes

namespace Writer

variable {ε : Type} {schema : Schema} {batchSize : Nat} {done : List (List Row)} {held : List Row}

theorem flush_holding_ok (some : held ≠ []) (writer : Writer)
    (flushed : (holding schema batchSize done held).flush = (.ok (), writer)) :
    (held.flatMap encodeRow).length + 4 ≤ maxFrameBytes := by
  by_contra large
  have kept : ¬(holding schema batchSize done held).pendingRows = 0 := by
    simp [holding, some]
  have heavy : maxFrameBytes < (holding schema batchSize done held).pendingBytes + 4 :=
    Nat.not_le.mp large
  simp only [flush, if_neg kept, if_pos heavy] at flushed
  cases flushed

theorem writeRow_holding_ok (row : Row) (writer : Writer)
    (taken : (holding schema batchSize done held).writeRow row = (.ok (), writer)) :
    row.length = schema.size ∧ itemsTooLong? row = none ∧
      (fillsFrame batchSize (held ++ [row]) = true →
        ((held ++ [row]).flatMap encodeRow).length + 4 ≤ maxFrameBytes) := by
  by_cases width : row.length = schema.size
  · refine ⟨width, ?_⟩
    have wide : ¬row.length ≠ (holding schema batchSize done held).schema.size := by
      simpa [holding] using width
    simp only [writeRow, if_neg wide] at taken
    cases short : itemsTooLong? row with
    | some part =>
      rw [short] at taken
      cases taken
    | none =>
      refine ⟨rfl, fun filled => ?_⟩
      simp only [short, hold_holding row, isFull_holding, filled, if_true] at taken
      exact flush_holding_ok (by simp) writer taken
  · rw [writeRow_width _ row width] at taken
    cases taken

theorem finish_holding_ok (some : held ≠ []) (count : Nat) (writer : Writer)
    (finished : (holding schema batchSize done held).finish = (.ok count, writer)) :
    (held.flatMap encodeRow).length + 4 ≤ maxFrameBytes := by
  cases flushed : (holding schema batchSize done held).flush with
  | mk outcome after =>
    cases outcome with
    | ok _ => exact flush_holding_ok some after flushed
    | error failure =>
      rw [finish, flushed] at finished
      cases finished

theorem writeAll_holding_ok (wrap : Error → ε) (rows : List Row) (count : Nat) (writer : Writer) :
    (holding schema batchSize done held).writeAll wrap (rows.map .ok) = (.ok count, writer) →
      (∀ row ∈ rows, row.length = schema.size) ∧ (∀ row ∈ rows, itemsTooLong? row = none) ∧
        ∀ group ∈ groupsFrom (fillsFrame batchSize) held rows,
          (group.flatMap encodeRow).length + 4 ≤ maxFrameBytes := by
  induction rows generalizing done held with
  | nil =>
    intro run
    refine ⟨by simp, by simp, ?_⟩
    intro group member
    obtain ⟨some, rfl⟩ := mem_groupsFrom_nil.mp member
    rw [List.map_nil, writeAll] at run
    cases finished : (holding schema batchSize done group).finish with
    | mk outcome after =>
      cases outcome with
      | ok _ => exact finish_holding_ok some _ after finished
      | error failure =>
        rw [finished] at run
        cases run
  | cons row rest ih =>
    intro run
    rw [List.map_cons, writeAll] at run
    cases step : (holding schema batchSize done held).writeRow row with
    | mk outcome after =>
      cases outcome with
      | error failure =>
        rw [step] at run
        cases run
      | ok _ =>
        -- The row was accepted, so nothing stood in the way of it.
        obtain ⟨width, short, fit⟩ := writeRow_holding_ok row after step
        have next := @writeRow_holding schema batchSize done held row width short fit
        rw [next] at run
        have later : (∀ other ∈ rest, other.length = schema.size) ∧
            (∀ other ∈ rest, itemsTooLong? other = none) ∧
            ∀ group ∈ groupsFrom (fillsFrame batchSize) held (row :: rest),
              (group.flatMap encodeRow).length + 4 ≤ maxFrameBytes := by
          cases filled : fillsFrame batchSize (held ++ [row]) with
          | true =>
            rw [filled] at run
            obtain ⟨widths, shorts, fits⟩ := ih run
            rw [groupsFrom, filled, if_pos rfl]
            exact ⟨widths, shorts, List.forall_mem_cons.mpr ⟨fit filled, fits⟩⟩
          | false =>
            rw [filled] at run
            rw [groupsFrom, filled]
            exact ih run
        obtain ⟨widths, shorts, fits⟩ := later
        exact ⟨List.forall_mem_cons.mpr ⟨width, widths⟩,
          List.forall_mem_cons.mpr ⟨short, shorts⟩, fits⟩

end Writer

theorem writable_of_serialize {ε : Type} (wrap : Error → ε) (schema : Schema) (batchSize : Nat)
    (rows : List Row) (count : Nat) (bytes : List UInt8)
    (written : serialize wrap schema batchSize (rows.map .ok) = (.ok count, bytes)) :
    Writable schema batchSize rows := by
  by_cases header : schema.header.length < 2 ^ 32
  · rw [serialize, Writer.start_ok schema batchSize header] at written
    cases run : (Writer.holding schema batchSize [] []).writeAll wrap (rows.map .ok) with
    | mk outcome writer =>
      simp only [run] at written
      cases written
      obtain ⟨widths, short, frames⟩ := Writer.writeAll_holding_ok wrap rows count writer run
      exact ⟨header, widths, short, frames⟩
  · have long : isTooLong schema.header.length = true := by
      simpa [isTooLong] using header
    simp only [serialize, Writer.start, long, if_true] at written
    cases written

theorem header_of_deserialize (schema : Schema) (groups : List (List Row)) (found : List Row)
    (short : schema.header.length < 2 ^ 32)
    (read : deserialize (batchOf schema groups) schema = .ok found) :
    schema.header.length ≤ maxFrameBytes ∧ schema.openLevels ≤ DataType.maxOpen := by
  have opened := Reader.start_header schema short (groups.flatMap frameOf ++ terminator)
  by_cases heavy : maxFrameBytes < schema.header.length
  · rw [if_pos heavy] at opened
    rw [deserialize, batchOf, opened] at read
    cases read
  rw [if_neg heavy] at opened
  by_cases levels : schema.openLevels ≤ DataType.maxOpen
  · exact ⟨Nat.not_lt.mp heavy, levels⟩
  · rw [if_neg levels] at opened
    rw [deserialize, batchOf, opened] at read
    cases read

/-! ## Numbers of rows -/

theorem group_length_le (batchSize : Nat) (held rows : List Row)
    (room : held.length < max batchSize 1) :
    ∀ group ∈ groupsFrom (fillsFrame batchSize) held rows, group.length ≤ max batchSize 1 := by
  induction rows generalizing held with
  | nil =>
    intro group member
    obtain ⟨_, rfl⟩ := mem_groupsFrom_nil.mp member
    exact Nat.le_of_lt room
  | cons row rest ih =>
    have length : (held ++ [row]).length = held.length + 1 := by simp
    cases filled : fillsFrame batchSize (held ++ [row]) with
    | true =>
      rw [groupsFrom, filled, if_pos rfl, List.forall_mem_cons]
      exact ⟨by omega, ih [] (by simp)⟩
    | false =>
      rw [groupsFrom, filled]
      refine ih (held ++ [row]) ?_
      simp only [fillsFrame, Bool.or_eq_false_iff, decide_eq_false_iff_not] at filled
      exact Nat.not_le.mp filled.1

theorem frame_length_le (batchSize : Nat) (rows : List Row) :
    ∀ group ∈ frameGroups batchSize rows, group.length ≤ min (max batchSize 1) rows.length := by
  intro group member
  have whole : (frameGroups batchSize rows).flatten = rows :=
    flatten_groupsFrom (fillsFrame batchSize) [] rows
  have part := (List.sublist_flatten_of_mem member).length_le
  rw [whole] at part
  exact Nat.le_min.mpr ⟨group_length_le batchSize [] rows (by simp) group member, part⟩

theorem fitting_of_writable (schema : Schema) (batchSize : Nat) (rows : List Row)
    (writable : Writable schema batchSize rows)
    (few : schema.fields = [] → min (max batchSize 1) rows.length < 2 ^ 32) :
    ∀ group ∈ frameGroups batchSize rows, Fitting group := by
  intro group member
  have bytes := writable.frames group member
  refine ⟨?_, bytes⟩
  by_cases columns : schema.fields = []
  · exact Nat.lt_of_le_of_lt (frame_length_le batchSize rows group member) (few columns)
  · have some : ∀ row ∈ group, row ≠ [] := by
      rintro row inside rfl
      have whole : (frameGroups batchSize rows).flatten = rows :=
        flatten_groupsFrom (fillsFrame batchSize) [] rows
      have among : [] ∈ rows := whole ▸ List.mem_flatten.mpr ⟨group, member, inside⟩
      exact columns (List.length_eq_zero_iff.mp (writable.widths [] among).symm)
    have limit : maxFrameBytes < 2 ^ 32 := by decide
    have count := count_le_bytes group some
    omega

end TableLoad.Batch

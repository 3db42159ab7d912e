import TableLoad.Batch.Writer
import TableLoad.Proofs.Batch.Frames

/-!
# What a writer has written

A writer is always described by the groups of rows it has written as frames and
by the rows it holds back.  Every accepted row is held back first; the row that
fills a group closes it.
-/

set_option autoImplicit false

namespace TableLoad.Batch

/-! ## Groups -/

/-- Rows in groups, the first of which begins with the rows `held`; a group ends
with the row that fills it. -/
def groupsFrom (full : List Row → Bool) (held : List Row) : List Row → List (List Row)
  | [] => if held.isEmpty then [] else [held]
  | row :: rest =>
    if full (held ++ [row]) then (held ++ [row]) :: groupsFrom full [] rest
    else groupsFrom full (held ++ [row]) rest

/-- What is held back at the end makes the last group, if it is anything. -/
theorem mem_groupsFrom_nil {full : List Row → Bool} {held group : List Row} :
    group ∈ groupsFrom full held [] ↔ held ≠ [] ∧ group = held := by
  by_cases none : held = []
  · simp [groupsFrom, none]
  · simp [groupsFrom, none]

theorem flatten_groupsFrom (full : List Row → Bool) (held rows : List Row) :
    (groupsFrom full held rows).flatten = held ++ rows := by
  induction rows generalizing held with
  | nil => cases held <;> simp [groupsFrom]
  | cons row rest ih =>
    cases filled : full (held ++ [row]) <;> simp [groupsFrom, filled, ih]

def fillsFrame (batchSize : Nat) (held : List Row) : Bool :=
  max batchSize 1 ≤ held.length || maxFrameBytes / 2 ≤ (held.flatMap encodeRow).length

/-- The rows of each frame of a batch. -/
def frameGroups (batchSize : Nat) (rows : List Row) : List (List Row) :=
  groupsFrom (fillsFrame batchSize) [] rows

def batchOf (schema : Schema) (groups : List (List Row)) : List UInt8 :=
  header schema ++ (groups.flatMap frameOf ++ terminator)

namespace Writer

/-- The writer that has written some groups and holds back some rows. -/
def holding (schema : Schema) (batchSize : Nat) (done : List (List Row)) (held : List Row) :
    Writer :=
  { schema
    batchSize := max batchSize 1
    emitted := (done.map frameOf).reverse ++ [header schema]
    pending := (held.map encodeRow).reverse
    pendingBytes := (held.flatMap encodeRow).length
    pendingRows := held.length
    flushedRows := done.flatten.length }

theorem start_ok (schema : Schema) (batchSize : Nat) (short : schema.header.length < 2 ^ 32) :
    start schema batchSize = .ok (holding schema batchSize [] []) := by
  have fit := (isTooLong_eq_false _).mpr short
  simp [start, fit, holding]

/-! ## One step -/

variable {schema : Schema} {batchSize : Nat} {done : List (List Row)} {held : List Row}

theorem isFull_holding :
    (holding schema batchSize done held).isFull = fillsFrame batchSize held := by
  simp [isFull, holding, fillsFrame]

theorem flush_holding (some : held ≠ [])
    (fit : (held.flatMap encodeRow).length + 4 ≤ maxFrameBytes) :
    (holding schema batchSize done held).flush =
      (.ok (), holding schema batchSize (done ++ [held]) []) := by
  have frame : frame held.length (held.map encodeRow).flatten = frameOf held := by
    rw [frameOf, List.flatMap_def]
  have kept : ¬(holding schema batchSize done held).pendingRows = 0 := by
    simp [holding, some]
  have room : ¬maxFrameBytes < (holding schema batchSize done held).pendingBytes + 4 :=
    Nat.not_lt.mpr fit
  simp only [flush, if_neg kept, if_neg room]
  simp [holding, frame]

theorem writeRow_width (writer : Writer) (row : Row) (wrong : row.length ≠ writer.schema.size) :
    writer.writeRow row =
      (.error (.corrupt (.rowWidth row.length writer.schema.size)), writer) := by
  simp [writeRow, wrong]

/-- A row with a part that is too long is refused, and what had been written of it stays in
the frame. -/
theorem writeRow_tooLong (writer : Writer) (row : Row) (part : String)
    (width : row.length = writer.schema.size) (long : itemsTooLong? row = some part) :
    ∃ kept, kept <+: encodeRow row ∧
      writer.writeRow row = (.error (.lengthTooLong part), writer.hold kept 0) := by
  refine ⟨tornItems row, (tornFrom_items row).begins, ?_⟩
  simp [writeRow, width, long]

theorem hold_holding (row : Row) :
    (holding schema batchSize done held).hold (encodeRow row) 1 =
      holding schema batchSize done (held ++ [row]) := by
  simp [hold, holding]

theorem writeRow_holding (row : Row) (width : row.length = schema.size)
    (short : itemsTooLong? row = none)
    (fit : fillsFrame batchSize (held ++ [row]) = true →
      ((held ++ [row]).flatMap encodeRow).length + 4 ≤ maxFrameBytes) :
    (holding schema batchSize done held).writeRow row =
      (.ok (),
        if fillsFrame batchSize (held ++ [row]) then
          holding schema batchSize (done ++ [held ++ [row]]) []
        else holding schema batchSize done (held ++ [row])) := by
  have wide : ¬row.length ≠ (holding schema batchSize done held).schema.size := by
    simpa [holding] using width
  simp only [writeRow, if_neg wide, short, hold_holding row, isFull_holding]
  cases filled : fillsFrame batchSize (held ++ [row]) with
  | false => rfl
  | true => exact flush_holding (by simp) (fit filled)

theorem finish_holding (fit : (held.flatMap encodeRow).length + 4 ≤ maxFrameBytes) :
    ∃ finished, (holding schema batchSize done held).finish =
        (.ok (done.flatten.length + held.length), finished) ∧
      finished.bytes = batchOf schema (done ++ groupsFrom (fillsFrame batchSize) held []) := by
  by_cases none : held = []
  · subst none
    have unchanged : (holding schema batchSize done []).flush =
        (.ok (), holding schema batchSize done []) := by simp [flush, holding]
    simp only [finish, unchanged]
    refine ⟨_, rfl, ?_⟩
    simp [bytes, holding, batchOf, groupsFrom, List.flatMap_def]
  · have flushed := @flush_holding schema batchSize done held none fit
    have count : (holding schema batchSize (done ++ [held]) []).flushedRows =
        done.flatten.length + held.length := by simp [holding]
    simp only [finish, flushed, count]
    refine ⟨_, rfl, ?_⟩
    simp [bytes, holding, batchOf, groupsFrom, none, List.flatMap_def]

/-! ## Runs -/

/-- Offers rows one after the other whether or not they are accepted: what came
of each, and the writer after them. -/
def writeEach (writer : Writer) : List Row → List (Except Error Unit) × Writer
  | [] => ([], writer)
  | row :: rest =>
    let (outcome, writer) := writer.writeRow row
    let (outcomes, writer) := writer.writeEach rest
    (outcome :: outcomes, writer)

def accepted (schema : Schema) (rows : List Row) : List Row :=
  rows.filter fun row => row.length = schema.size

def verdict (schema : Schema) (row : Row) : Except Error Unit :=
  if row.length = schema.size then .ok ()
  else .error (.corrupt (.rowWidth row.length schema.size))

theorem writeRow_schema (writer : Writer) (row : Row) :
    (writer.writeRow row).2.schema = writer.schema := by
  have flushed : ∀ other : Writer, other.flush.2.schema = other.schema := by
    intro other
    unfold flush
    split
    · rfl
    · split <;> rfl
  unfold writeRow
  split
  · rfl
  · split
    · rfl
    · dsimp only
      split
      · exact flushed _
      · rfl

/-- Rows of the wrong width are refused and leave nothing behind, if all others
are accepted. -/
theorem writeEach_mixed (writer : Writer) (rows : List Row)
    (fine : (writer.writeEach (accepted writer.schema rows)).1 =
      (accepted writer.schema rows).map fun _ => .ok ()) :
    writer.writeEach rows =
      (rows.map (verdict writer.schema), (writer.writeEach (accepted writer.schema rows)).2) := by
  induction rows generalizing writer with
  | nil => rfl
  | cons row rest ih =>
    by_cases width : row.length = writer.schema.size
    · have member : accepted writer.schema (row :: rest) = row :: accepted writer.schema rest := by
        simp [accepted, width]
      have same := writeRow_schema writer row
      rw [member] at fine ⊢
      simp only [writeEach, List.map_cons, List.cons.injEq] at fine
      obtain ⟨first, later⟩ := fine
      rw [← same] at later
      have others := ih (writer.writeRow row).2 later
      rw [same] at others
      simp only [writeEach, first, others, List.map_cons]
      simp [verdict, width]
    · have refused : accepted writer.schema (row :: rest) = accepted writer.schema rest := by
        simp [accepted, width]
      rw [refused] at fine ⊢
      have step := writeRow_width writer row width
      simp only [writeEach, step, ih writer fine, List.map_cons]
      simp [verdict, width]

theorem writeEach_holding (rows : List Row) (widths : ∀ row ∈ rows, row.length = schema.size)
    (short : ∀ row ∈ rows, itemsTooLong? row = none)
    (fit : ∀ group ∈ groupsFrom (fillsFrame batchSize) held rows,
      (group.flatMap encodeRow).length + 4 ≤ maxFrameBytes) :
    ∃ writer finished,
      (holding schema batchSize done held).writeEach rows = (rows.map fun _ => .ok (), writer) ∧
        writer.finish = (.ok (done.flatten.length + held.length + rows.length), finished) ∧
          finished.bytes =
            batchOf schema (done ++ groupsFrom (fillsFrame batchSize) held rows) := by
  induction rows generalizing done held with
  | nil =>
    have room : (held.flatMap encodeRow).length + 4 ≤ maxFrameBytes := by
      by_cases none : held = []
      · subst none
        decide
      · exact fit held (by simp [groupsFrom, none])
    obtain ⟨finished, whole, content⟩ := @finish_holding schema batchSize done held room
    exact ⟨_, finished, rfl, whole, content⟩
  | cons row rest ih =>
    have step := @writeRow_holding schema batchSize done held row (widths row List.mem_cons_self)
      (short row List.mem_cons_self)
    have laterWidths : ∀ other ∈ rest, other.length = schema.size :=
      fun other member => widths other (List.mem_cons_of_mem row member)
    have laterShort : ∀ other ∈ rest, itemsTooLong? other = none :=
      fun other member => short other (List.mem_cons_of_mem row member)
    cases filled : fillsFrame batchSize (held ++ [row]) with
    | true =>
      simp only [groupsFrom, filled, if_true, List.mem_cons, forall_eq_or_imp] at fit step ⊢
      obtain ⟨writer, finished, each, whole, content⟩ :=
        @ih (done ++ [held ++ [row]]) [] laterWidths laterShort fit.2
      refine ⟨writer, finished, ?_, ?_, ?_⟩
      · simp only [writeEach, step fun _ => fit.1, each, List.map_cons]
      · rw [whole]
        simp
        omega
      · rw [content]
        simp
    | false =>
      simp only [groupsFrom, filled, if_false, Bool.false_eq_true] at fit step ⊢
      obtain ⟨writer, finished, each, whole, content⟩ :=
        @ih done (held ++ [row]) laterWidths laterShort fit
      refine ⟨writer, finished, ?_, ?_, content⟩
      · simp only [writeEach, step False.elim, each, List.map_cons]
      · rw [whole]
        simp
        omega

end Writer

end TableLoad.Batch

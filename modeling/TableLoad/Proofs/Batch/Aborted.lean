import TableLoad.Proofs.Batch.PrefixFree
import TableLoad.Proofs.Batch.Whole

/-!
# Writes that are aborted

A write ends at the first item that is no row of the right width.  What has
reached the sink by then is the header and every frame that was filled; the rows
held back are lost and the end of the batch is missing.  A reader gets the rows
of those frames and then an error, so no one takes the rest for a batch.
-/

set_option autoImplicit false

namespace TableLoad.Batch

/-! ## Groups that were filled -/

/-- Rows in groups, the first of which begins with the rows `held`: the groups
that were filled, and the rows of the last one, which was not. -/
def splitGroups (full : List Row → Bool) (held : List Row) :
    List Row → List (List Row) × List Row
  | [] => ([], held)
  | row :: rest =>
    if full (held ++ [row]) then
      ((held ++ [row]) :: (splitGroups full [] rest).1, (splitGroups full [] rest).2)
    else splitGroups full (held ++ [row]) rest

def fullGroups (batchSize : Nat) (rows : List Row) : List (List Row) :=
  (splitGroups (fillsFrame batchSize) [] rows).1

theorem flatten_splitGroups (full : List Row → Bool) (held rows : List Row) :
    (splitGroups full held rows).1.flatten ++ (splitGroups full held rows).2 = held ++ rows := by
  induction rows generalizing held with
  | nil => simp [splitGroups]
  | cons row rest ih =>
    cases filled : full (held ++ [row]) with
    | true => simp [splitGroups, filled, ih []]
    | false => simp [splitGroups, filled, ih (held ++ [row])]

theorem splitGroups_left (full : List Row → Bool) (held rows : List Row)
    (empty : full [] = false) (unfilled : full held = false) :
    full (splitGroups full held rows).2 = false := by
  induction rows generalizing held with
  | nil => exact unfilled
  | cons row rest ih =>
    unfold splitGroups
    cases filled : full (held ++ [row]) with
    | true => exact ih [] empty
    | false => exact ih (held ++ [row]) filled

theorem fillsFrame_nil (batchSize : Nat) : fillsFrame batchSize [] = false := by
  have half : 0 < maxFrameBytes / 2 := by decide
  simp only [fillsFrame, List.length_nil, List.flatMap_nil, Bool.or_eq_false_iff,
    decide_eq_false_iff_not]
  omega

theorem small_of_fullGroups (batchSize : Nat) (rows : List Row)
    (fitting : ∀ group ∈ fullGroups batchSize rows, Fitting group) :
    ∀ row ∈ rows, (encodeRow row).length < 2 ^ 32 := by
  have limit : maxFrameBytes = 268435456 := rfl
  intro row member
  have whole := flatten_splitGroups (fillsFrame batchSize) [] rows
  rw [List.nil_append] at whole
  rw [← whole, List.mem_append, List.mem_flatten] at member
  cases member with
  | inl closed =>
    obtain ⟨group, among, inside⟩ := closed
    have bytes := (fitting group among).bytes
    have bound := row_le group row inside
    omega
  | inr left =>
    have unfilled := splitGroups_left (fillsFrame batchSize) [] rows
      (fillsFrame_nil batchSize) (fillsFrame_nil batchSize)
    simp only [fillsFrame, Bool.or_eq_false_iff, decide_eq_false_iff_not] at unfilled
    have bound := row_le _ row left
    omega

theorem chunk_of_prefix (size : Nat) (front rest : List Row) (some : front ≠ [])
    (short : front.length ≤ size) : ∃ chunk ∈ chunks size (front ++ rest), front <+: chunk := by
  cases front with
  | nil => exact absurd rfl some
  | cons row front =>
    rw [List.length_cons] at short
    refine ⟨row :: (front ++ rest).take (size - 1), ?_, ?_⟩
    · rw [List.cons_append, chunks]
      exact List.mem_cons_self
    · rw [List.take_append, List.take_of_length_le (by omega)]
      exact ⟨rest.take (size - 1 - front.length), by simp⟩

/-- If no chunk of the batch size is heavy enough to close a group before it has
all its rows, then exactly the complete chunks are filled. -/
theorem splitGroups_eq_chunks (batchSize : Nat) (held rows : List Row)
    (few : held.length < max batchSize 1)
    (light : ∀ chunk ∈ chunks (max batchSize 1) (held ++ rows),
      (chunk.flatMap encodeRow).length < maxFrameBytes / 2) :
    (splitGroups (fillsFrame batchSize) held rows).1 =
      (chunks (max batchSize 1) (held ++ rows)).filter fun chunk =>
        chunk.length = max batchSize 1 := by
  induction rows generalizing held with
  | nil =>
    rw [List.append_nil]
    by_cases none : held = []
    · subst none
      rw [chunks]
      rfl
    · have partly : ¬held.length = max batchSize 1 := by omega
      rw [chunks_of_short _ held none (by omega), List.filter_singleton]
      simp [splitGroups, partly]
  | cons row rest ih =>
    have whole : held ++ row :: rest = (held ++ [row]) ++ rest := by simp
    have size : (held ++ [row]).length = held.length + 1 := by simp
    rw [whole] at light ⊢
    -- A row closes the group by being the last of its chunk, never by its weight.
    by_cases last : (held ++ [row]).length = max batchSize 1
    · have filled : fillsFrame batchSize (held ++ [row]) = true := by
        rw [fillsFrame, last]
        simp
      rw [chunks_append _ (held ++ [row]) rest (by omega) last] at light ⊢
      have others := ih [] (by rw [List.length_nil]; omega)
        fun chunk member => light chunk (List.mem_cons_of_mem _ member)
      rw [List.nil_append] at others
      rw [splitGroups, if_pos filled, List.filter_cons_of_pos (by simpa using last), others]
    · obtain ⟨chunk, member, begins⟩ :=
        chunk_of_prefix (max batchSize 1) (held ++ [row]) rest (by simp) (by omega)
      obtain ⟨more, rfl⟩ := begins
      have bytes := light _ member
      rw [List.flatMap_append, List.length_append] at bytes
      have unfilled : ¬fillsFrame batchSize (held ++ [row]) = true := by
        simp only [fillsFrame, Bool.or_eq_true, decide_eq_true_eq]
        omega
      rw [splitGroups, if_neg unfilled]
      exact ih (held ++ [row]) (by omega) light

/-! ## Writing up to the item that ends it -/

namespace Writer

variable {ε : Type}

/-- How an item ends a write: it could not be produced, or it is a row of the
wrong width. -/
def stop? (wrap : Error → ε) (schema : Schema) : Except ε Row → Option ε
  | .error failure => some failure
  | .ok row =>
    if row.length = schema.size then none
    else some (wrap (.corrupt (.rowWidth row.length schema.size)))

theorem writeAll_stop (wrap : Error → ε) (writer : Writer) (bad : Except ε Row)
    (later : List (Except ε Row)) (failure : ε) :
    stop? wrap writer.schema bad = some failure →
      writer.writeAll wrap (bad :: later) = (.error failure, writer) := by
  intro stops
  cases bad with
  | error other =>
    obtain rfl : other = failure := Option.some.inj stops
    rfl
  | ok row =>
    simp only [stop?] at stops
    by_cases width : row.length = writer.schema.size
    · rw [if_pos width] at stops
      cases stops
    · rw [if_neg width, Option.some.injEq] at stops
      rw [writeAll, writeRow_width writer row width, ← stops]

/-- Rows that are accepted bring the writer to where they are either written as
frames or held back. -/
theorem writeAll_holding (wrap : Error → ε) (schema : Schema) (batchSize : Nat)
    (done : List (List Row)) (held rows : List Row) (items : List (Except ε Row)) :
    (∀ row ∈ rows, Storable schema.fields row) →
    (∀ group ∈ (splitGroups (fillsFrame batchSize) held rows).1, Fitting group) →
      (holding schema batchSize done held).writeAll wrap (rows.map .ok ++ items) =
        (holding schema batchSize
          (done ++ (splitGroups (fillsFrame batchSize) held rows).1)
          (splitGroups (fillsFrame batchSize) held rows).2).writeAll wrap items := by
  induction rows generalizing done held with
  | nil =>
    intro _ _
    simp [splitGroups]
  | cons row rest ih =>
    intro storable fitting
    obtain ⟨width, short, _⟩ := storable row List.mem_cons_self
    have others : ∀ other ∈ rest, Storable schema.fields other :=
      fun other member => storable other (List.mem_cons_of_mem row member)
    have step := @writeRow_holding schema batchSize done held row width short
    rw [List.map_cons, List.cons_append, writeAll]
    unfold splitGroups at fitting ⊢
    cases filled : fillsFrame batchSize (held ++ [row]) with
    | true =>
      rw [filled, if_pos rfl] at fitting step
      rw [step fun _ => (fitting _ List.mem_cons_self).bytes]
      have run := ih (done ++ [held ++ [row]]) [] others
        fun group member => fitting group (List.mem_cons_of_mem _ member)
      simpa using run
    | false =>
      rw [filled] at fitting step
      rw [step fun full => Bool.noConfusion full]
      exact ih done (held ++ [row]) others fitting

end Writer

/-! ## Reading what is left -/

namespace Reader

theorem rowsWithin_unterminated (groups : List (List Row)) (reader : Reader) (limit : Nat) :
    groups.length < limit →
    reader.finished = false →
    reader.rest = groups.flatMap frameOf →
    (∀ group ∈ groups, Fitting group) →
    (∀ row ∈ groups.flatten, Storable reader.schema.fields row) →
    (∀ row ∈ groups.flatten, RowConforms reader.schema.fields row) →
      reader.rowsWithin limit =
        ((groups.takeWhile fun group => (rowsOffClock? group).isNone).flatten.map Row.unnamed,
          some ((rowsOffClock? groups.flatten).getD (.truncated .frameLength))) := by
  intro enough
  obtain ⟨limit, rfl⟩ : ∃ less, limit = less + 1 := ⟨limit - 1, by omega⟩
  induction groups generalizing reader limit with
  | nil =>
    -- Where the end of the batch should be, there is nothing at all.
    intro unfinished left _ _ _
    have cut : reader.nextFrame.1 = .error (.truncated .frameLength) := by
      simp [nextFrame, unfinished, left, splitExact]
    exact rowsWithin_of_error limit cut
  | cons group groups ih =>
    intro unfinished left fitting storable conform
    simp only [List.flatten_cons, List.mem_append] at storable conform
    obtain ⟨rowsRead, step⟩ := nextFrame_conforming reader group (groups.flatMap frameOf)
      unfinished (by simpa using left) (fitting group List.mem_cons_self)
      (fun row member => storable row (.inl member)) fun row member => conform row (.inl member)
    rw [List.flatten_cons, rowsOffClock_append]
    cases off : rowsOffClock? group with
    | some cause =>
      rw [off] at step
      rw [rowsWithin_of_error limit (congrArg Prod.fst step)]
      simp [off]
    | none =>
      rw [off] at step
      obtain ⟨limit, rfl⟩ : ∃ less, limit = less + 1 := by
        simp only [List.length_cons] at enough
        exact ⟨limit - 1, by omega⟩
      have later := ih { reader with rest := groups.flatMap frameOf, rowsRead } limit
        (by simpa using enough) unfinished rfl
        (fun other member => fitting other (List.mem_cons_of_mem group member))
        (fun row member => storable row (.inr member)) fun row member => conform row (.inr member)
      rw [rowsWithin_of_rows _ step, later]
      simp [off]

/-- Without the end of the batch the rows that are there are followed by an error, in
front of the first frame with a time off the clock if there is one. -/
theorem rows_unterminated (groups : List (List Row)) (reader : Reader) :
    reader.finished = false →
    reader.rest = groups.flatMap frameOf →
    (∀ group ∈ groups, Fitting group) →
    (∀ row ∈ groups.flatten, Storable reader.schema.fields row) →
    (∀ row ∈ groups.flatten, RowConforms reader.schema.fields row) →
      reader.rows =
        ((groups.takeWhile fun group => (rowsOffClock? group).isNone).flatten.map Row.unnamed,
          some ((rowsOffClock? groups.flatten).getD (.truncated .frameLength))) := by
  intro unfinished left
  have enough : groups.length ≤ reader.rest.length := left ▸ groups_le_bytes groups
  exact rowsWithin_unterminated groups reader _ (by omega) unfinished left

end Reader

/-! ## Both together -/

theorem serialize_aborted {ε : Type} (wrap : Error → ε) (schema : Schema) (batchSize : Nat)
    (rows : List Row) (bad : Except ε Row) (later : List (Except ε Row)) (failure : ε) :
    schema.header.length < 2 ^ 32 →
    (∀ row ∈ rows, Storable schema.fields row) →
    (∀ group ∈ fullGroups batchSize rows, Fitting group) →
    Writer.stop? wrap schema bad = some failure →
      serialize wrap schema batchSize (rows.map .ok ++ bad :: later) =
        (.error failure, header schema ++ (fullGroups batchSize rows).flatMap frameOf) := by
  intro size storable fitting stops
  have run := Writer.writeAll_holding wrap schema batchSize [] [] rows (bad :: later)
    storable fitting
  rw [Writer.writeAll_stop wrap _ bad later failure stops] at run
  simp only [serialize, Writer.start_ok schema batchSize size, run]
  simp [Writer.bytes, Writer.holding, fullGroups, List.flatMap_def]

/-- An aborted write fails with what ended it.  Of the rows before, those in
filled groups have reached the sink as frames and the others have not; a reader
gives the rows of the frames and an error, and the whole is no batch of any
schema.  The first frame with a time off the clock ends the rows, and that time is
the error.  Unless rows are heavy, the filled groups are the chunks of the batch
size that are complete. -/
theorem aborted_write_unreadable {ε : Type} (wrap : Error → ε) (schema : Schema) (batchSize : Nat)
    (rows : List Row) (bad : Except ε Row) (later : List (Except ε Row)) (failure : ε) :
    schema.openLevels ≤ DataType.maxOpen →
    schema.header.length ≤ maxFrameBytes →
    (∀ row ∈ rows, RowConforms schema.fields row) →
    (∀ group ∈ fullGroups batchSize rows, Fitting group) →
    Writer.stop? wrap schema bad = some failure →
      ∃ written, written = header schema ++ (fullGroups batchSize rows).flatMap frameOf ∧
        serialize wrap schema batchSize (rows.map .ok ++ bad :: later) =
          (.error failure, written) ∧
        (∃ reader, Reader.start written = .ok reader ∧ reader.schema = schema ∧
          reader.rows =
            (((fullGroups batchSize rows).takeWhile fun group =>
                (rowsOffClock? group).isNone).flatten.map Row.unnamed,
              some ((rowsOffClock? (fullGroups batchSize rows).flatten).getD
                (.truncated .frameLength)))) ∧
        (∀ expected, deserialize written expected =
          .error (if schema = expected then
              (rowsOffClock? (fullGroups batchSize rows).flatten).getD (.truncated .frameLength)
            else .schemaMismatch schema expected)) ∧
        ((∀ chunk ∈ chunks (max batchSize 1) rows,
            (chunk.flatMap encodeRow).length < maxFrameBytes / 2) →
          fullGroups batchSize rows =
            (chunks (max batchSize 1) rows).filter fun chunk =>
              chunk.length = max batchSize 1) := by
  intro levels size conform fitting stops
  have limit : maxFrameBytes = 268435456 := rfl
  have storable : ∀ row ∈ rows, Storable schema.fields row := fun row member =>
    storable_of_conforms schema levels row (conform row member)
      (small_of_fullGroups batchSize rows fitting row member)
  -- Only rows of filled groups are read, and these are among the rows.
  have among : ∀ row ∈ (fullGroups batchSize rows).flatten, row ∈ rows := by
    intro row member
    have whole := flatten_splitGroups (fillsFrame batchSize) [] rows
    rw [List.nil_append] at whole
    rw [← whole]
    exact List.mem_append_left _ member
  have opened := Reader.start_written schema ((fullGroups batchSize rows).flatMap frameOf)
    levels size
  have read := Reader.rows_unterminated (fullGroups batchSize rows)
    ⟨schema, (fullGroups batchSize rows).flatMap frameOf, 0, false⟩ rfl rfl fitting
    (fun row member => storable row (among row member))
    (fun row member => conform row (among row member))
  refine ⟨_, rfl, ?_, ⟨_, opened, rfl, read⟩, ?_, ?_⟩
  · exact serialize_aborted wrap schema batchSize rows bad later failure (by omega) storable
      fitting stops
  · intro expected
    rw [deserialize, opened]
    by_cases same : schema = expected
    · rw [if_pos same]
      simp only [bind, Except.bind, Reader.expectSchema, if_pos same, Reader.readAll, read]
    · rw [if_neg same]
      simp only [bind, Except.bind, Reader.expectSchema, if_neg same]
  · intro light
    exact splitGroups_eq_chunks batchSize [] rows (by rw [List.length_nil]; omega) light

def keptRows : List Row :=
  [[.list [.int 7, .null]], [.list []]]

def lostRow : Row :=
  [.list [.int 1]]

/-- Two rows to a frame: the third row is lost, the first two are read back. -/
theorem lists_aborted :
    serialize Error.message listSchema 2
        ((keptRows ++ [lostRow]).map .ok ++ .error "stopped" :: []) =
      (.error "stopped", header listSchema ++ frameOf keptRows) ∧
    (∃ reader, Reader.start (header listSchema ++ frameOf keptRows) = .ok reader ∧
      reader.rows = (keptRows, some (.truncated .frameLength))) ∧
    deserialize (header listSchema ++ frameOf keptRows) listSchema =
      .error (.truncated .frameLength) := by
  have groups : fullGroups 2 (keptRows ++ [lostRow]) = [keptRows] := rfl
  have conform : ∀ row ∈ keptRows ++ [lostRow], RowConforms listSchema.fields row := by
    simp [keptRows, lostRow, listSchema, RowConforms, conforms, Atom.stores, DataType.nullable]
  have fitting : ∀ group ∈ fullGroups 2 (keptRows ++ [lostRow]), Fitting group := by
    rw [groups]
    simp only [List.mem_singleton, forall_eq]
    exact ⟨by decide, by decide +kernel⟩
  obtain ⟨written, content, failed, ⟨reader, opened, _, read⟩, refused, _⟩ :=
    aborted_write_unreadable Error.message listSchema 2 (keptRows ++ [lostRow])
      (.error "stopped") [] "stopped" (by decide) (by decide +kernel) conform fitting rfl
  rw [groups] at content read
  rw [List.flatMap_singleton] at content
  subst content
  exact ⟨failed, ⟨reader, opened, read⟩, refused listSchema⟩

/-- A row of a complete frame is not read back if a time in it is off the clock. -/
theorem stretched_time_lost :
    RowConforms clockSchema.fields [.time stretchedTime] ∧
      clockSchema.openLevels ≤ DataType.maxOpen ∧
      fullGroups 1 [[.time stretchedTime]] = [[[.time stretchedTime]]] ∧
      serialize Error.message clockSchema 1 ([[.time stretchedTime]].map .ok ++ [.error "stopped"]) =
        (.error "stopped", header clockSchema ++ frameOf [[.time stretchedTime]]) ∧
      ∃ reader, Reader.start (header clockSchema ++ frameOf [[.time stretchedTime]]) = .ok reader ∧
        reader.rows = ([], some (.timeOutOfRange 86164)) := by
  have levels : clockSchema.openLevels ≤ DataType.maxOpen := by decide
  have header : clockSchema.header.length ≤ maxFrameBytes := by decide +kernel
  have conform : RowConforms clockSchema.fields [.time stretchedTime] := by
    simp [clockSchema, RowConforms, conforms, Atom.stores]
  have groups : fullGroups 1 [[.time stretchedTime]] = [[[.time stretchedTime]]] := rfl
  have storable : ∀ row ∈ [[.time stretchedTime]], Storable clockSchema.fields row := by
    simpa using storable_of_conforms clockSchema levels _ conform (by decide +kernel)
  have fitting : ∀ group ∈ [[[.time stretchedTime]]], Fitting group := by
    simpa using Fitting.mk (by decide) (by decide +kernel)
  have written := serialize_aborted Error.message clockSchema 1 [[.time stretchedTime]]
    (.error "stopped") [] "stopped" (by decide +kernel) storable (groups ▸ fitting) rfl
  have opened := Reader.start_written clockSchema (frameOf [[.time stretchedTime]]) levels header
  have read := Reader.rows_unterminated [[[.time stretchedTime]]]
    ⟨clockSchema, frameOf [[.time stretchedTime]], 0, false⟩ rfl (by simp) fitting
    (by simpa using storable) (by simpa using conform)
  exact ⟨conform, levels, groups, by simpa [groups] using written, _, opened, read⟩

end TableLoad.Batch

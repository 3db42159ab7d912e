import TableLoad.Proofs.Batch.Writing

/-!
# Batches read back

A reader of a whole batch gives the rows of its frames, frame by frame, and then
the end for as long as it is asked.
-/

set_option autoImplicit false

namespace TableLoad.Batch

/-! ## The header -/

theorem reads_part (part : Part) (content : List UInt8) (count : Nat)
    (size : content.length = count) : Reads (takePart part count) content content := by
  intro rest
  subst size
  simp [takePart, splitExact_append]

/-- The start of a batch whose schema is given by any document. -/
def opening (document : List UInt8) : List UInt8 :=
  magic ++ formatVersion :: (lengthBytes document.length ++ document)

theorem decodeHeader_opening (document : List UInt8) (short : document.length < 2 ^ 32)
    (rest : List UInt8) :
    decodeHeader (opening document ++ rest) =
      if maxFrameBytes < document.length then .error (.headerLength document.length)
      else
        match Schema.ofHeader document with
        | .ok found => .ok (found, rest)
        | .error fault => .error (.header fault) := by
  have number : ofBigEndian (lengthBytes document.length) = document.length :=
    ofBigEndian_bigEndian 4 _ short
  have whole : opening document ++ rest = magic ++ ([formatVersion] ++
      (lengthBytes document.length ++ (document ++ rest))) := by simp [opening]
  have size : (lengthBytes document.length).length = 4 := bigEndian_length 4 _
  rw [whole]
  refine (bind_of_ok _ (reads_part .magic magic 4 rfl _)).trans ?_
  refine (bind_of_ok _ (reads_part .version [formatVersion] 1 rfl _)).trans ?_
  refine (bind_of_ok _ (reads_part .schemaLength _ 4 size _)).trans ?_
  rw [number]
  by_cases large : maxFrameBytes < document.length
  · rw [if_pos large, if_pos large]
    rfl
  · rw [if_neg large, if_neg large]
    refine (bind_of_ok _ (reads_part .schemaHeader document _ rfl rest)).trans ?_
    cases Schema.ofHeader document <;> rfl

theorem decodeHeader_header (schema : Schema) (short : schema.header.length < 2 ^ 32)
    (rest : List UInt8) :
    decodeHeader (header schema ++ rest) =
      if maxFrameBytes < schema.header.length then
        .error (.headerLength schema.header.length)
      else
        match Schema.ofHeader schema.header with
        | .ok found => .ok (found, rest)
        | .error fault => .error (.header fault) :=
  decodeHeader_opening schema.header short rest

theorem reads_header (schema : Schema) (levels : schema.openLevels ≤ DataType.maxOpen)
    (size : schema.header.length ≤ maxFrameBytes) : Reads decodeHeader (header schema) schema := by
  have limit : maxFrameBytes < 2 ^ 32 := by decide
  have room : ¬ maxFrameBytes < schema.header.length := by omega
  intro rest
  rw [decodeHeader_header schema (by omega) rest, if_neg room, Schema.ofHeader_header schema levels]
  rfl

theorem Reader.start_written (schema : Schema) (rest : List UInt8)
    (levels : schema.openLevels ≤ DataType.maxOpen) (size : schema.header.length ≤ maxFrameBytes) :
    Reader.start (header schema ++ rest) =
      .ok { schema, rest, rowsRead := 0, finished := false } := by
  have read := reads_header schema levels size rest
  simp [Reader.start, StateT.run, read, bind, Except.bind, pure, Except.pure]

/-! ## Frame by frame -/

namespace Reader

/-- What a number of reads of the next frame give one after the other. -/
def frames : Nat → Reader → List (Except Corruption (Option (List Row)))
  | 0, _ => []
  | count + 1, reader => reader.nextFrame.1 :: frames count reader.nextFrame.2

theorem nextFrame_terminator (reader : Reader) (unfinished : reader.finished = false)
    (left : reader.rest = terminator) :
    reader.nextFrame = (.ok none, { reader with rest := [], finished := true }) := by
  have split : splitExact 4 reader.rest = some (terminator, []) := by
    rw [left]
    rfl
  have zero : ofBigEndian terminator = 0 := rfl
  simp [nextFrame, unfinished, split, zero]

theorem frames_finished (reader : Reader) (finished : reader.finished = true) (count : Nat) :
    reader.frames count = List.replicate count (.ok none) := by
  induction count with
  | zero => rfl
  | succ count ih => simp [frames, nextFrame, finished, ih, List.replicate_succ]

/-- The groups come back one by one, each as its rows or as the first time in them that is
off the clock, and then the end, however often it is asked for. -/
theorem frames_written (groups : List (List Row)) (reader : Reader) (more : Nat)
    (unfinished : reader.finished = false)
    (left : reader.rest = groups.flatMap frameOf ++ terminator)
    (fitting : ∀ group ∈ groups, Fitting group)
    (storable : ∀ group ∈ groups, ∀ row ∈ group, Storable reader.schema.fields row)
    (conform : ∀ group ∈ groups, ∀ row ∈ group, RowConforms reader.schema.fields row) :
    reader.frames (groups.length + more) =
      groups.map (fun group =>
          (rowsOffClock? group).elim (.ok (some (group.map Row.unnamed))) .error) ++
        List.replicate more (.ok none) := by
  -- Along the groups: the reader goes on behind a frame even if it was refused.
  induction groups generalizing reader with
  | nil =>
    cases more with
    | zero => rfl
    | succ more =>
      have last := nextFrame_terminator reader unfinished left
      have after := frames_finished { reader with rest := [], finished := true } rfl more
      simp [frames, last, after, List.replicate_succ]
  | cons group others ih =>
    obtain ⟨rowsRead, step⟩ := nextFrame_conforming reader group
      (others.flatMap frameOf ++ terminator) unfinished
      (by simpa using left) (fitting group List.mem_cons_self)
      (storable group List.mem_cons_self) (conform group List.mem_cons_self)
    have later := ih { reader with rest := others.flatMap frameOf ++ terminator, rowsRead }
      unfinished rfl
      (fun other member => fitting other (List.mem_cons_of_mem group member))
      (fun other member => storable other (List.mem_cons_of_mem group member))
      (fun other member => conform other (List.mem_cons_of_mem group member))
    have count : (group :: others).length + more = (others.length + more) + 1 := by
      simp only [List.length_cons]
      omega
    rw [count, frames, step, later]
    rfl

end Reader

/-! ## Chunks of one size -/

/-- The rows in order, `size` of them at a time and the last ones together. -/
def chunks (size : Nat) : List Row → List (List Row)
  | [] => []
  | row :: rest => (row :: rest.take (size - 1)) :: chunks size (rest.drop (size - 1))
termination_by rows => rows.length
decreasing_by
  simp only [List.length_drop, List.length_cons]
  omega

theorem flatten_chunks (size : Nat) (rows : List Row) : (chunks size rows).flatten = rows := by
  fun_induction chunks size rows with
  | case1 => rfl
  | case2 row rest ih => simp [ih]

theorem chunks_of_short (size : Nat) (rows : List Row) (some : rows ≠ [])
    (short : rows.length ≤ size) : chunks size rows = [rows] := by
  cases rows with
  | nil => exact absurd rfl some
  | cons row rest =>
    simp only [List.length_cons] at short
    rw [chunks, List.take_of_length_le (by omega), List.drop_of_length_le (by omega), chunks]

theorem chunks_append (size : Nat) (front rest : List Row) (positive : 0 < size)
    (full : front.length = size) : chunks size (front ++ rest) = front :: chunks size rest := by
  cases front with
  | nil =>
    simp only [List.length_nil] at full
    omega
  | cons row front =>
    have others : front.length = size - 1 := by
      simp only [List.length_cons] at full
      omega
    rw [List.cons_append, chunks, List.take_left' others, List.drop_left' others]

theorem groupsFrom_eq_chunks (batchSize : Nat) (held rows : List Row)
    (few : held.length < max batchSize 1)
    (small : ((held ++ rows).flatMap encodeRow).length < maxFrameBytes / 2) :
    groupsFrom (fillsFrame batchSize) held rows = chunks (max batchSize 1) (held ++ rows) := by
  induction rows generalizing held with
  | nil =>
    rw [List.append_nil]
    by_cases none : held = []
    · subst none
      rw [chunks]
      rfl
    · rw [chunks_of_short _ held none (by omega)]
      simp [groupsFrom, none]
  | cons row rest ih =>
    have whole : held ++ row :: rest = (held ++ [row]) ++ rest := by simp
    rw [whole] at small ⊢
    have light : ¬maxFrameBytes / 2 ≤ ((held ++ [row]).flatMap encodeRow).length := by
      rw [List.flatMap_append, List.length_append] at small
      omega
    have size : (held ++ [row]).length = held.length + 1 := by simp
    by_cases filled : max batchSize 1 ≤ (held ++ [row]).length
    · have later := ih [] (by rw [List.length_nil]; omega) (by
        rw [List.flatMap_append, List.length_append] at small
        rw [List.nil_append]
        omega)
      rw [chunks_append _ (held ++ [row]) rest (by omega) (by omega)]
      simp only [groupsFrom, fillsFrame, filled, decide_true, Bool.true_or, if_true, later,
        List.nil_append]
    · have later := ih (held ++ [row]) (by omega) small
      simp only [groupsFrom, fillsFrame, filled, light, decide_false, Bool.or_self,
        Bool.false_eq_true, if_false]
      exact later

/-! ## Whole batches -/

theorem group_le (groups : List (List Row)) (group : List Row) (member : group ∈ groups) :
    group.length ≤ groups.flatten.length ∧
      (group.flatMap encodeRow).length ≤ (groups.flatten.flatMap encodeRow).length := by
  obtain ⟨front, back, rfl⟩ := List.append_of_mem member
  simp only [List.flatten_append, List.flatten_cons, List.flatMap_append, List.length_append]
  omega

theorem row_le (rows : List Row) (row : Row) (member : row ∈ rows) :
    (encodeRow row).length ≤ (rows.flatMap encodeRow).length := by
  obtain ⟨front, back, rfl⟩ := List.append_of_mem member
  simp only [List.flatMap_append, List.flatMap_cons, List.length_append]
  omega

theorem fitting_chunks (size : Nat) (rows : List Row) (count : rows.length < 2 ^ 32)
    (bytes : (rows.flatMap encodeRow).length + 4 ≤ maxFrameBytes) :
    ∀ chunk ∈ chunks size rows, Fitting chunk := by
  intro chunk member
  have bound := group_le _ chunk member
  rw [flatten_chunks] at bound
  exact ⟨by omega, by omega⟩

theorem mem_of_mem_chunk {size : Nat} {rows chunk : List Row} {row : Row}
    (member : chunk ∈ chunks size rows) (inside : row ∈ chunk) : row ∈ rows := by
  rw [← flatten_chunks size rows]
  exact List.mem_flatten.mpr ⟨chunk, member, inside⟩

/-- No row that conforms to a readable schema nests deeper than rows are read. -/
theorem storable_of_conforms (schema : Schema) (levels : schema.openLevels ≤ DataType.maxOpen)
    (row : Row) (good : RowConforms schema.fields row) (small : (encodeRow row).length < 2 ^ 32) :
    Storable schema.fields row := by
  have width := good.length_eq.symm
  have nesting := itemsDepth_of_conforms schema.fields row width
    ((conformsFields_iff schema.fields row width).mpr good)
  have limit := schema.depth_le levels
  have most : maxNesting = 64 := rfl
  exact ⟨width, itemsTooLong_of_small row small, by omega⟩

theorem writeEach_chunks (schema : Schema) (batchSize : Nat) (rows : List Row)
    (storable : ∀ row ∈ rows, Storable schema.fields row)
    (small : (rows.flatMap encodeRow).length < maxFrameBytes / 2) :
    ∃ written finished,
      (Writer.holding schema batchSize [] []).writeEach rows =
          (rows.map fun _ => .ok (), written) ∧
        written.finish = (.ok rows.length, finished) ∧
          finished.bytes = batchOf schema (chunks (max batchSize 1) rows) := by
  have limit : maxFrameBytes = 268435456 := rfl
  have groups := groupsFrom_eq_chunks batchSize [] rows (by rw [List.length_nil]; omega) small
  rw [List.nil_append] at groups
  have fit : ∀ group ∈ groupsFrom (fillsFrame batchSize) [] rows,
      (group.flatMap encodeRow).length + 4 ≤ maxFrameBytes := by
    intro group member
    have bound := group_le _ group member
    rw [flatten_groupsFrom, List.nil_append] at bound
    omega
  obtain ⟨written, finished, each, finish, content⟩ :=
    @Writer.writeEach_holding schema batchSize [] [] rows
      (fun row member => (storable row member).width)
      (fun row member => (storable row member).short) fit
  rw [groups] at content
  refine ⟨written, finished, each, ?_, content⟩
  rw [finish]
  simp

/-- Rows that conform are all taken, and their chunks come back one by one. -/
theorem read_back_of_conforms (schema : Schema) (batchSize : Nat) (rows : List Row)
    (levels : schema.openLevels ≤ DataType.maxOpen) (size : schema.header.length ≤ maxFrameBytes)
    (conform : ∀ row ∈ rows, RowConforms schema.fields row)
    (small : (rows.flatMap encodeRow).length < maxFrameBytes / 2) (count : rows.length < 2 ^ 32) :
    ∃ written finished reader,
      (Writer.holding schema batchSize [] []).writeEach rows =
          (rows.map fun _ => .ok (), written) ∧
        written.finish = (.ok rows.length, finished) ∧
        Reader.start finished.bytes = .ok reader ∧
        reader.schema = schema ∧
        ∀ more, reader.frames ((chunks (max batchSize 1) rows).length + more) =
          (chunks (max batchSize 1) rows).map (fun chunk =>
              (rowsOffClock? chunk).elim (.ok (some (chunk.map Row.unnamed))) .error) ++
            List.replicate more (.ok none) := by
  have limit : maxFrameBytes = 268435456 := rfl
  have storable : ∀ row ∈ rows, Storable schema.fields row := by
    intro row member
    have bytes := row_le _ row member
    exact storable_of_conforms schema levels row (conform row member) (by omega)
  obtain ⟨written, finished, each, finish, content⟩ :=
    writeEach_chunks schema batchSize rows storable small
  have opened := Reader.start_written schema
    ((chunks (max batchSize 1) rows).flatMap frameOf ++ terminator) levels size
  refine ⟨written, finished, _, each, finish, by rw [content, batchOf, opened], rfl, ?_⟩
  intro more
  exact Reader.frames_written _ _ more rfl rfl
    (fitting_chunks _ _ count (by omega))
    (fun chunk member row inside => storable row (mem_of_mem_chunk member inside))
    (fun chunk member row inside => conform row (mem_of_mem_chunk member inside))

/-- A batch of rows that conform is read back as it was written: the schema, the
accepted rows in chunks of the batch size without the names inside their values,
and then the end.  Rows of a wrong width are refused and leave nothing behind.  Only
of a chunk with a time off the clock is there nothing but an error: the writer takes
such a time and the reader does not. -/
theorem batch_read_back (schema : Schema) (batchSize : Nat) (rows : List Row)
    (levels : schema.openLevels ≤ DataType.maxOpen) (size : schema.header.length ≤ maxFrameBytes)
    (conform : ∀ row ∈ Writer.accepted schema rows, RowConforms schema.fields row)
    (small : ((Writer.accepted schema rows).flatMap encodeRow).length < maxFrameBytes / 2)
    (count : (Writer.accepted schema rows).length < 2 ^ 32) :
    ∃ writer written finished reader,
      Writer.start schema batchSize = .ok writer ∧
        writer.writeEach rows = (rows.map (Writer.verdict schema), written) ∧
        writer.writeEach (Writer.accepted schema rows) =
          ((Writer.accepted schema rows).map fun _ => .ok (), written) ∧
        written.finish = (.ok (Writer.accepted schema rows).length, finished) ∧
        Reader.start finished.bytes = .ok reader ∧
        reader.schema = schema ∧
        ∀ more, reader.frames
            ((chunks (max batchSize 1) (Writer.accepted schema rows)).length + more) =
          (chunks (max batchSize 1) (Writer.accepted schema rows)).map (fun chunk =>
              (rowsOffClock? chunk).elim (.ok (some (chunk.map Row.unnamed))) .error) ++
            List.replicate more (.ok none) := by
  have limit : maxFrameBytes < 2 ^ 32 := by decide
  obtain ⟨written, finished, reader, each, finish, opened, same, frames⟩ :=
    read_back_of_conforms schema batchSize _ levels size conform small count
  have mixed := Writer.writeEach_mixed (Writer.holding schema batchSize [] []) rows
    (congrArg Prod.fst each)
  have after := congrArg Prod.snd each
  exact ⟨_, written, finished, reader, Writer.start_ok schema batchSize (by omega),
    mixed.trans (congrArg _ after), each, finish, opened, same, frames⟩

def listSchema : Schema where
  fields := [("numbers", .array (.atom .int true) false)]
  wellFormed := rfl

def listRows : List Row :=
  [[.list [.int 7, .null]], [], [.list []], [.list [.int 1]]]

theorem list_rows_read_back :
    Writer.accepted listSchema listRows =
        [[.list [.int 7, .null]], [.list []], [.list [.int 1]]] ∧
      ∃ writer written finished reader,
        Writer.start listSchema 2 = .ok writer ∧
          writer.writeEach listRows = (listRows.map (Writer.verdict listSchema), written) ∧
          written.finish = (.ok (Writer.accepted listSchema listRows).length, finished) ∧
          Reader.start finished.bytes = .ok reader ∧
          ∀ more, reader.frames ((chunks 2 (Writer.accepted listSchema listRows)).length + more) =
            (chunks 2 (Writer.accepted listSchema listRows)).map
                (fun chunk => .ok (some (chunk.map Row.unnamed))) ++
              List.replicate more (.ok none) := by
  have kept : Writer.accepted listSchema listRows =
      [[.list [.int 7, .null]], [.list []], [.list [.int 1]]] := by
    simp [Writer.accepted, listSchema, listRows, Schema.size]
  have conform : ∀ row ∈ Writer.accepted listSchema listRows,
      RowConforms listSchema.fields row := by
    rw [kept]
    simp [listSchema, RowConforms, conforms, Atom.stores, DataType.nullable]
  have on : ∀ row ∈ Writer.accepted listSchema listRows, itemsOffClock? row = none := by
    rw [kept]
    simp [itemsOffClock?, offClock?]
  have back : (chunks 2 (Writer.accepted listSchema listRows)).map (fun chunk =>
        (rowsOffClock? chunk).elim (.ok (some (chunk.map Row.unnamed))) .error) =
      (chunks 2 (Writer.accepted listSchema listRows)).map
        (fun chunk => (.ok (some (chunk.map Row.unnamed)) :
          Except Corruption (Option (List Row)))) := by
    refine List.map_congr_left fun chunk member => ?_
    rw [(rowsOffClock_eq_none chunk).mpr fun row inside => on row (mem_of_mem_chunk member inside)]
    rfl
  obtain ⟨writer, written, finished, reader, start, each, _, finish, opened, _, frames⟩ :=
    batch_read_back listSchema 2 listRows (by decide) (by decide +kernel) conform
      (by decide +kernel) (by decide +kernel)
  refine ⟨kept, writer, written, finished, reader, start, each, finish, opened, fun more => ?_⟩
  rw [← back]
  exact frames more

def clockSchema : Schema where
  fields := [("at", .atom .time false)]
  wellFormed := rfl

/-- Four seconds past a minute, and the fourth is stretched. -/
def stretchedTime : Calendar.TimeOfDay :=
  ⟨86164, 1333333333, by decide⟩

/-- A time off the clock conforms and is written, but its frame is not read back. -/
theorem stretched_time_unread :
    RowConforms clockSchema.fields [.time stretchedTime] ∧
      clockSchema.openLevels ≤ DataType.maxOpen ∧
      ∃ writer written finished reader,
        Writer.start clockSchema 1000 = .ok writer ∧
          writer.writeEach [[.time stretchedTime]] = ([.ok ()], written) ∧
          written.finish = (.ok 1, finished) ∧
          Reader.start finished.bytes = .ok reader ∧
          reader.schema = clockSchema ∧
          reader.frames 2 = [.error (.timeOutOfRange 86164), .ok none] := by
  have levels : clockSchema.openLevels ≤ DataType.maxOpen := by decide
  have conform : RowConforms clockSchema.fields [.time stretchedTime] := by
    simp [clockSchema, RowConforms, conforms, Atom.stores]
  obtain ⟨written, finished, reader, each, finish, opened, same, frames⟩ :=
    read_back_of_conforms clockSchema 1000 [[.time stretchedTime]] levels (by decide +kernel)
      (by simpa using conform) (by decide +kernel) (by decide +kernel)
  have one : chunks (max 1000 1) [[.time stretchedTime]] = [[[.time stretchedTime]]] :=
    chunks_of_short _ _ (by simp) (by decide)
  have read := frames 1
  rw [one] at read
  exact ⟨conform, levels, _, written, finished, reader,
    Writer.start_ok clockSchema 1000 (by decide +kernel), each, finish, opened, same, read⟩

end TableLoad.Batch

import TableLoad.Proofs.Batch.RoundTrip

/-!
# Batches written and read at once

All rows of a batch in one call: what is written for rows that are produced one
by one, and what is read of it, up to the first value that does not conform.
-/

set_option autoImplicit false

namespace TableLoad.Batch

/-! ## Writing -/

namespace Writer

variable {ε : Type}

theorem writeAll_of_accepted (wrap : Error → ε) (writer : Writer) (rows : List Row)
    (fine : (writer.writeEach rows).1 = rows.map fun _ => .ok ()) :
    writer.writeAll wrap (rows.map .ok) =
      ((writer.writeEach rows).2.finish.1.mapError wrap, (writer.writeEach rows).2.finish.2) := by
  induction rows generalizing writer with
  | nil =>
    simp only [List.map_nil, writeAll, writeEach]
    cases finished : writer.finish with
    | mk outcome after => cases outcome <;> rfl
  | cons row rest ih =>
    simp only [writeEach, List.map_cons, List.cons.injEq] at fine
    have later := ih (writer.writeRow row).2 fine.2
    simp only [List.map_cons, writeAll, writeEach]
    cases step : writer.writeRow row with
    | mk outcome after =>
      rw [step] at fine later
      obtain ⟨accepted, _⟩ := fine
      subst accepted
      exact later

theorem writeAll_of_error (wrap : Error → ε) (writer : Writer) (items : List (Except ε Row))
    (error : ε) (member : .error error ∈ items) :
    ∃ first, (writer.writeAll wrap items).1 = .error first := by
  induction items generalizing writer with
  | nil => cases member
  | cons item rest ih =>
    cases item with
    | error other => exact ⟨other, rfl⟩
    | ok row =>
      have later : .error error ∈ rest := by simpa using member
      cases step : writer.writeRow row with
      | mk outcome after =>
        cases outcome with
        | error refused => exact ⟨wrap refused, by simp [writeAll, step]⟩
        | ok done => simpa [writeAll, step] using ih after later

theorem writeAll_stopped (wrap : Error → ε) (writer : Writer) (items : List (Except ε Row))
    (cause : ε) (foreign : ∀ error, wrap error ≠ cause)
    (stopped : (writer.writeAll wrap items).1 = .error cause) :
    ∃ place : Nat, items[place]? = some (Except.error cause) ∧
      ∀ earlier < place, ∃ row, items[earlier]? = some (Except.ok row) := by
  induction items generalizing writer with
  | nil =>
    rw [writeAll] at stopped
    cases finished : writer.finish with
    | mk outcome after =>
      rw [finished] at stopped
      cases outcome with
      | ok count => cases stopped
      | error error => exact absurd (Except.error.inj stopped) (foreign error)
  | cons item rest ih =>
    cases item with
    | error other =>
      cases stopped
      exact ⟨0, rfl, fun _ impossible => absurd impossible (Nat.not_lt_zero _)⟩
    | ok row =>
      rw [writeAll] at stopped
      cases step : writer.writeRow row with
      | mk outcome after =>
        rw [step] at stopped
        cases outcome with
        | error error => exact absurd (Except.error.inj stopped) (foreign error)
        | ok done =>
          obtain ⟨place, found, before⟩ := ih after stopped
          refine ⟨place + 1, found, fun earlier less => ?_⟩
          cases earlier with
          | zero => exact ⟨row, rfl⟩
          | succ earlier => exact before earlier (Nat.lt_of_succ_lt_succ less)

end Writer

theorem serialize_written {ε : Type} (wrap : Error → ε) (schema : Schema) (batchSize : Nat)
    (rows : List Row) (size : schema.header.length < 2 ^ 32)
    (widths : ∀ row ∈ rows, row.length = schema.size)
    (short : ∀ row ∈ rows, itemsTooLong? row = none)
    (fit : ∀ group ∈ frameGroups batchSize rows,
      (group.flatMap encodeRow).length + 4 ≤ maxFrameBytes) :
    serialize wrap schema batchSize (rows.map .ok) =
      (.ok rows.length, batchOf schema (frameGroups batchSize rows)) := by
  obtain ⟨written, finished, each, finish, content⟩ :=
    @Writer.writeEach_holding schema batchSize [] [] rows widths short fit
  have all := Writer.writeAll_of_accepted wrap (Writer.holding schema batchSize [] []) rows
    (congrArg Prod.fst each)
  rw [each, finish] at all
  simp only [serialize, Writer.start_ok schema batchSize size, all, content]
  simp [Except.mapError, frameGroups]

theorem serialize_of_error {ε : Type} (wrap : Error → ε) (schema : Schema) (batchSize : Nat)
    (items : List (Except ε Row)) (error : ε) (member : .error error ∈ items) :
    ∃ first, (serialize wrap schema batchSize items).1 = .error first := by
  unfold serialize
  cases Writer.start schema batchSize with
  | error refused => exact ⟨wrap refused, rfl⟩
  | ok writer => exact writer.writeAll_of_error wrap items error member

theorem serialize_stopped {ε : Type} (wrap : Error → ε) (schema : Schema) (batchSize : Nat)
    (items : List (Except ε Row)) (cause : ε) (foreign : ∀ error, wrap error ≠ cause)
    (stopped : (serialize wrap schema batchSize items).1 = .error cause) :
    ∃ place : Nat, items[place]? = some (Except.error cause) ∧
      ∀ earlier < place, ∃ row, items[earlier]? = some (Except.ok row) := by
  unfold serialize at stopped
  cases started : Writer.start schema batchSize with
  | error refused =>
    rw [started] at stopped
    exact absurd (Except.error.inj stopped) (foreign refused)
  | ok writer =>
    rw [started] at stopped
    exact writer.writeAll_stopped wrap items cause foreign stopped

/-! ## Reading -/

theorem firstMisfit_append (fields : List Field) (index : Nat) (front back : List Row) :
    firstMisfit? fields index (front ++ back) =
      (firstMisfit? fields index front).or (firstMisfit? fields (index + front.length) back) := by
  induction front generalizing index with
  | nil => simp [firstMisfit?]
  | cons row rest ih =>
    simp only [List.cons_append, firstMisfit?, List.length_cons]
    cases misfit? fields row with
    | some misfit => rfl
    | none =>
      have next : index + (rest.length + 1) = index + 1 + rest.length := by omega
      rw [next]
      exact ih (index + 1)

namespace Reader

/-- All groups come back up to the first value that does not conform, with its
row counted over the groups. -/
theorem rowsWithin_written (groups : List (List Row)) (reader : Reader) (limit : Nat)
    (enough : groups.length < limit) (unfinished : reader.finished = false)
    (left : reader.rest = groups.flatMap frameOf ++ terminator)
    (fitting : ∀ group ∈ groups, Fitting group)
    (storable : ∀ group ∈ groups, ∀ row ∈ group, Storable reader.schema.fields row) :
    match firstMisfit? reader.schema.fields reader.rowsRead groups.flatten with
    | none => reader.rowsWithin limit = (groups.flatten.map Row.unnamed, none)
    | some (bad, misfit) => (reader.rowsWithin limit).2 = some (misfitIn bad misfit) := by
  obtain ⟨limit, rfl⟩ : ∃ less, limit = less + 1 := ⟨limit - 1, by omega⟩
  induction groups generalizing reader limit with
  | nil =>
    have last := nextFrame_terminator reader unfinished left
    simp [firstMisfit?, rowsWithin, last]
  | cons group others ih =>
    obtain ⟨limit, rfl⟩ : ∃ less, limit = less + 1 := by
      simp only [List.length_cons] at enough
      exact ⟨limit - 1, by omega⟩
    have step := nextFrame_written reader group (others.flatMap frameOf ++ terminator) unfinished
      (by simpa using left) (fitting group List.mem_cons_self)
      (storable group List.mem_cons_self)
    -- Rows are counted over the frames, so the search goes on with the next number.
    rw [List.flatten_cons, firstMisfit_append, rowsWithin]
    cases bad : firstMisfit? reader.schema.fields reader.rowsRead group with
    | some found =>
      rw [bad] at step
      simp [step]
    | none =>
      rw [bad] at step
      have later := ih
        { reader with
          rest := others.flatMap frameOf ++ terminator
          rowsRead := reader.rowsRead + group.length }
        unfinished rfl
        (fun other member => fitting other (List.mem_cons_of_mem group member))
        (fun other member => storable other (List.mem_cons_of_mem group member))
        limit (by simpa using enough)
      simp only [step, Option.none_or]
      cases misfit : firstMisfit? reader.schema.fields (reader.rowsRead + group.length)
          others.flatten with
      | none =>
        simp only [misfit] at later
        simp [later]
      | some found =>
        simp only [misfit] at later
        exact later

theorem groups_le_bytes (groups : List (List Row)) :
    groups.length ≤ (groups.flatMap frameOf).length := by
  induction groups with
  | nil => exact Nat.le_refl 0
  | cons group others ih =>
    have front : 4 ≤ (frameOf group).length := by
      simp [frameOf, frame, lengthBytes, bigEndian_length]
    simp only [List.flatMap_cons, List.length_append, List.length_cons]
    omega

end Reader

theorem deserialize_written (schema : Schema) (groups : List (List Row))
    (levels : schema.openLevels ≤ DataType.maxOpen) (size : schema.header.length ≤ maxFrameBytes)
    (fitting : ∀ group ∈ groups, Fitting group)
    (storable : ∀ row ∈ groups.flatten, Storable schema.fields row) :
    deserialize (batchOf schema groups) schema =
      match firstMisfit? schema.fields 0 groups.flatten with
      | none => .ok (groups.flatten.map Row.unnamed)
      | some (bad, misfit) => .error (misfitIn bad misfit) := by
  have opened := Reader.start_written schema (groups.flatMap frameOf ++ terminator) levels size
  have count := Reader.groups_le_bytes groups
  have read := Reader.rowsWithin_written groups
    { schema, rest := groups.flatMap frameOf ++ terminator, rowsRead := 0, finished := false }
    ((groups.flatMap frameOf ++ terminator).length + 1)
    (by rw [List.length_append]; omega) rfl rfl fitting
    (fun group member row inside => storable row (List.mem_flatten.mpr ⟨group, member, inside⟩))
  simp only [deserialize, batchOf, opened, Reader.expectSchema, if_true, bind, Except.bind]
  simp only [Reader.readAll, Reader.rows]
  cases found : firstMisfit? schema.fields 0 groups.flatten with
  | none =>
    simp only [found] at read
    rw [read]
  | some misfit =>
    simp only [found] at read
    split
    · rename_i rows outcome
      rw [outcome] at read
      cases read
    · rename_i rows cause outcome
      rw [outcome] at read
      exact congrArg Except.error (Option.some.inj read)

end TableLoad.Batch

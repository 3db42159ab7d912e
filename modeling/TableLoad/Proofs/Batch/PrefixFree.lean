import TableLoad.Proofs.Batch.RoundTrip

/-!
# No batch begins another

A batch ends where its bytes end.  Of every part of it the reader knows how far it
goes before it looks at what follows, so a batch that is cut is reported as cut, and
what is added to one is reported as too much.
-/

set_option autoImplicit false

namespace TableLoad.Batch

/-! ## Decoders that know where they stop -/

/-- What the decoder takes does not depend on the bytes after it, and where it fails
for want of bytes it says so. -/
structure SelfDelimiting {α : Type} (decoder : Decoder α) : Prop where
  extend : ∀ {bytes rest : List UInt8} {value : α}, decoder bytes = .ok (value, rest) →
    ∀ more, decoder (bytes ++ more) = .ok (value, rest ++ more)
  cut : ∀ {bytes more : List UInt8} {cause : Corruption}, decoder bytes = .error cause →
    ∀ result, decoder (bytes ++ more) = .ok result → ∃ part, cause = .truncated part

namespace SelfDelimiting

variable {α β : Type}

theorem pure (value : α) : SelfDelimiting (pure value : Decoder α) := by
  constructor
  · intro bytes rest result read more
    cases read
    rfl
  · intro bytes more cause failed
    cases failed

theorem throw (cause : Corruption) : SelfDelimiting (throw cause : Decoder α) := by
  constructor
  · intro bytes rest result read
    cases read
  · intro bytes more other failed result read
    cases read

theorem bind {decoder : Decoder α} {next : α → Decoder β} (first : SelfDelimiting decoder)
    (later : ∀ value, SelfDelimiting (next value)) : SelfDelimiting (decoder >>= next) := by
  constructor
  · intro bytes rest result read more
    cases front : decoder bytes with
    | error cause =>
      rw [bind_of_error next front] at read
      cases read
    | ok found =>
      rw [bind_of_ok next front] at read
      rw [bind_of_ok next (first.extend front more)]
      exact (later found.1).extend read more
  · intro bytes more cause failed result read
    cases front : decoder bytes with
    | error early =>
      rw [bind_of_error next front] at failed
      cases failed
      cases whole : decoder (bytes ++ more) with
      | error other =>
        rw [bind_of_error next whole] at read
        cases read
      | ok found => exact first.cut front found whole
    | ok found =>
      rw [bind_of_ok next front] at failed
      rw [bind_of_ok next (first.extend front more)] at read
      exact (later found.1).cut failed result read

theorem check {refused : Prop} [Decidable refused] (cause : Corruption)
    {next : Unit → Decoder α} (later : SelfDelimiting (next ())) :
    SelfDelimiting (if refused then MonadExcept.throw cause >>= next else next ()) := by
  split
  · apply (throw cause).bind
    intro _
    exact later
  · exact later

end SelfDelimiting

theorem splitExact_extend {count : Nat} {bytes taken rest : List UInt8}
    (split : splitExact count bytes = some (taken, rest)) (more : List UInt8) :
    splitExact count (bytes ++ more) = some (taken, rest ++ more) := by
  obtain ⟨rfl, rfl⟩ := eq_append_of_splitExact split
  rw [List.append_assoc]
  exact splitExact_append taken (rest ++ more)

theorem selfDelimiting_takePart (part : Part) (count : Nat) :
    SelfDelimiting (takePart part count) := by
  constructor
  · intro bytes rest taken read more
    rw [takePart] at read ⊢
    split at read
    · rename_i split
      cases read
      rw [splitExact_extend split more]
    · cases read
  · intro bytes more cause failed _ _
    rw [takePart] at failed
    split at failed
    · cases failed
    · cases failed
      exact ⟨part, rfl⟩

theorem selfDelimiting_decodeHeader : SelfDelimiting decodeHeader := by
  unfold decodeHeader
  apply (selfDelimiting_takePart .magic 4).bind
  intro found
  apply SelfDelimiting.check
  apply (selfDelimiting_takePart .version 1).bind
  intro version
  apply SelfDelimiting.check
  apply (selfDelimiting_takePart .schemaLength 4).bind
  intro length
  apply SelfDelimiting.check
  apply (selfDelimiting_takePart .schemaHeader _).bind
  intro content
  split
  · exact .pure _
  · exact .throw _

/-! ## Frames -/

/-- The content of the next frame, or none for the empty frame at the end. -/
def takeFrame : Decoder (Option (List UInt8)) := do
  let length := ofBigEndian (← takePart .frameLength 4)
  if length = 0 then return none
  else if length < 4 || maxFrameBytes < length then throw (.frameLength length)
  else
    let content ← takePart .frame length
    return some content

theorem selfDelimiting_takeFrame : SelfDelimiting takeFrame := by
  apply (selfDelimiting_takePart .frameLength 4).bind
  intro found
  dsimp only
  split
  · exact .pure none
  · split
    · exact .throw _
    · apply (selfDelimiting_takePart .frame _).bind
      intro content
      exact .pure (some content)

theorem takeFrame_eq (bytes : List UInt8) :
    takeFrame bytes =
      match splitExact 4 bytes with
      | none => .error (.truncated .frameLength)
      | some (length, rest) =>
        if ofBigEndian length = 0 then .ok (none, rest)
        else if ofBigEndian length < 4 || maxFrameBytes < ofBigEndian length then
          .error (.frameLength (ofBigEndian length))
        else
          match splitExact (ofBigEndian length) rest with
          | none => .error (.truncated .frame)
          | some (content, rest) => .ok (some content, rest) := by
  cases front : splitExact 4 bytes with
  | none =>
    have failed : takePart .frameLength 4 bytes = .error (.truncated .frameLength) := by
      rw [takePart, front]
    rw [takeFrame, bind_of_error _ failed]
  | some found =>
    obtain ⟨length, rest⟩ := found
    have read : takePart .frameLength 4 bytes = .ok (length, rest) := by
      rw [takePart, front]
    rw [takeFrame, bind_of_ok _ read]
    dsimp only
    split
    · rfl
    · split
      · rfl
      · cases back : splitExact (ofBigEndian length) rest with
        | none =>
          have failed : takePart .frame (ofBigEndian length) rest =
              .error (.truncated .frame) := by rw [takePart, back]
          exact bind_of_error _ failed
        | some whole =>
          have taken : takePart .frame (ofBigEndian length) rest = .ok whole := by
            rw [takePart, back]
          exact bind_of_ok _ taken

theorem takeFrame_shorter {bytes rest content : List UInt8}
    (read : takeFrame bytes = .ok (some content, rest)) : rest.length < bytes.length := by
  rw [takeFrame_eq] at read
  split at read
  · cases read
  · rename_i length after front
    obtain ⟨rfl, size⟩ := eq_append_of_splitExact front
    split at read
    · cases read
    · split at read
      · cases read
      · split at read
        · cases read
        · rename_i taken left back
          obtain ⟨rfl, _⟩ := eq_append_of_splitExact back
          cases read
          simp only [List.length_append]
          omega

namespace Reader

theorem nextFrame_eq (reader : Reader) (unfinished : reader.finished = false) :
    match takeFrame reader.rest with
    | .error cause => reader.nextFrame.1 = .error cause
    | .ok (none, rest) =>
      reader.nextFrame.1 = if rest.isEmpty then .ok none else .error .trailingData
    | .ok (some content, rest) =>
      reader.nextFrame =
        match decodeFrame reader.schema.fields reader.rowsRead content with
        | (.ok rows, next) => (.ok (some rows), { reader with rest, rowsRead := next })
        | (.error cause, next) => (.error cause, { reader with rest, rowsRead := next }) := by
  rw [takeFrame_eq, nextFrame, unfinished]
  cases splitExact 4 reader.rest with
  | none => rfl
  | some found =>
    obtain ⟨length, rest⟩ := found
    by_cases last : ofBigEndian length = 0
    · simp only [last, if_true, Bool.false_eq_true, if_false]
      cases rest <;> rfl
    · by_cases bounds : (ofBigEndian length < 4 || maxFrameBytes < ofBigEndian length) = true
      · simp [last, bounds]
      · simp only [last, bounds, if_false, Bool.false_eq_true]
        cases splitExact (ofBigEndian length) rest with
        | none => rfl
        | some whole => rfl

theorem rowsWithin_of_error {reader : Reader} {cause : Corruption} (limit : Nat)
    (step : reader.nextFrame.1 = .error cause) :
    reader.rowsWithin (limit + 1) = ([], some cause) := by
  rw [rowsWithin]
  cases frame : reader.nextFrame with
  | mk outcome after =>
    rw [frame] at step
    cases step
    rfl

theorem rowsWithin_of_end {reader : Reader} (limit : Nat) (step : reader.nextFrame.1 = .ok none) :
    reader.rowsWithin (limit + 1) = ([], none) := by
  rw [rowsWithin]
  cases frame : reader.nextFrame with
  | mk outcome after =>
    rw [frame] at step
    cases step
    rfl

theorem rowsWithin_of_rows {reader after : Reader} {rows : List Row} (limit : Nat)
    (step : reader.nextFrame = (.ok (some rows), after)) :
    reader.rowsWithin (limit + 1) =
      (rows ++ (after.rowsWithin limit).1, (after.rowsWithin limit).2) := by
  rw [rowsWithin, step]

/-! ## What is cut and what is added -/

/-- The reader with more bytes after those it has not read. -/
def followedBy (reader : Reader) (more : List UInt8) : Reader :=
  { reader with rest := reader.rest ++ more }

/-- What the next frame is to a reader and to one with more bytes: the same rows to
both, the end to the first and too much to the other, or a failure of the first that
is a cut unless the other fails too. -/
theorem nextFrame_followedBy (reader : Reader) (more : List UInt8) (added : more ≠ [])
    (unfinished : reader.finished = false) :
    (∃ rows after, reader.nextFrame = (.ok (some rows), after) ∧
      (reader.followedBy more).nextFrame = (.ok (some rows), after.followedBy more) ∧
        after.finished = false ∧ after.rest.length < reader.rest.length) ∨
    (reader.nextFrame.1 = .ok none ∧
      (reader.followedBy more).nextFrame.1 = .error .trailingData) ∨
    (∃ cause, reader.nextFrame.1 = .error cause ∧
      ((∃ part, cause = .truncated part) ∨
        ∃ other, (reader.followedBy more).nextFrame.1 = .error other)) := by
  have short := nextFrame_eq reader unfinished
  have long := nextFrame_eq (reader.followedBy more) unfinished
  have bytes : (reader.followedBy more).rest = reader.rest ++ more := rfl
  rw [bytes] at long
  cases front : takeFrame reader.rest with
  | error cause =>
    rw [front] at short
    refine .inr (.inr ⟨cause, short, ?_⟩)
    cases whole : takeFrame (reader.rest ++ more) with
    | error other =>
      rw [whole] at long
      exact .inr ⟨other, long⟩
    | ok found => exact .inl (selfDelimiting_takeFrame.cut front found whole)
  | ok found =>
    obtain ⟨content?, rest⟩ := found
    rw [front] at short
    rw [selfDelimiting_takeFrame.extend front more] at long
    cases content? with
    | none =>
      have left : (rest ++ more).isEmpty = false := by simp [added]
      simp only [left, Bool.false_eq_true, if_false] at long
      cases rest with
      | nil => exact .inr (.inl ⟨short, long⟩)
      | cons b rest => exact .inr (.inr ⟨_, short, .inr ⟨_, long⟩⟩)
    | some content =>
      -- Both readers decode the same content, whatever it is.
      have fields : (reader.followedBy more).schema.fields = reader.schema.fields := rfl
      have number : (reader.followedBy more).rowsRead = reader.rowsRead := rfl
      simp only [fields, number] at long
      cases decoded : decodeFrame reader.schema.fields reader.rowsRead content with
      | mk outcome next =>
        simp only [decoded] at short long
        cases outcome with
        | error cause =>
          exact .inr (.inr ⟨cause, congrArg Prod.fst short, .inr ⟨cause, congrArg Prod.fst long⟩⟩)
        | ok rows => exact .inl ⟨rows, _, short, long, unfinished, takeFrame_shorter front⟩

/-- Of two readers, one of which has more bytes than the other, at most one comes to
the end: bytes after the end are too many, and an end that is missing is noticed. -/
theorem rowsWithin_followedBy (more : List UInt8) (added : more ≠ []) (limit : Nat) :
    ∀ (reader : Reader) (enough : Nat), reader.finished = false →
      reader.rest.length < limit → (reader.followedBy more).rest.length < enough →
      ((reader.rowsWithin limit).2 = none →
        ((reader.followedBy more).rowsWithin enough).2 = some .trailingData) ∧
      (((reader.followedBy more).rowsWithin enough).2 = none →
        ∃ part, (reader.rowsWithin limit).2 = some (.truncated part)) := by
  -- Along the frames of the shorter reader, which the longer one reads as well.
  induction limit with
  | zero =>
    intro reader enough _ impossible
    omega
  | succ limit ih =>
    intro reader enough unfinished room wide
    obtain ⟨enough, rfl⟩ : ∃ less, enough = less + 1 := ⟨enough - 1, by omega⟩
    rcases nextFrame_followedBy reader more added unfinished with
      ⟨rows, after, short, long, going, fewer⟩ | ⟨short, long⟩ | ⟨cause, short, long⟩
    · rw [rowsWithin_of_rows limit short, rowsWithin_of_rows enough long]
      apply ih after enough going
      · omega
      · simp only [followedBy, List.length_append] at wide ⊢
        omega
    · rw [rowsWithin_of_end limit short, rowsWithin_of_error enough long]
      constructor
      · intro _
        rfl
      · intro ended
        cases ended
    · rw [rowsWithin_of_error limit short]
      constructor
      · intro ended
        cases ended
      · intro ended
        rcases long with ⟨part, rfl⟩ | ⟨other, failed⟩
        · exact ⟨part, rfl⟩
        · rw [rowsWithin_of_error enough failed] at ended
          cases ended

/-! ## Whole batches -/

theorem start_eq (bytes : List UInt8) :
    start bytes =
      match decodeHeader bytes with
      | .ok (schema, rest) => .ok { schema, rest, rowsRead := 0, finished := false }
      | .error cause => .error cause := by
  rw [start, StateT.run]
  cases decodeHeader bytes <;> rfl

theorem readAll_ok_iff (reader : Reader) :
    (∃ rows, reader.readAll = .ok rows) ↔
      (reader.rowsWithin (reader.rest.length + 1)).2 = none := by
  rw [readAll, rows]
  cases reader.rowsWithin (reader.rest.length + 1) with
  | mk rows failure => cases failure <;> simp

theorem readAll_error_iff (reader : Reader) (cause : Corruption) :
    reader.readAll = .error cause ↔
      (reader.rowsWithin (reader.rest.length + 1)).2 = some cause := by
  rw [readAll, rows]
  cases reader.rowsWithin (reader.rest.length + 1) with
  | mk rows failure => cases failure <;> simp

end Reader

/-- Reads a batch of any schema from its first byte to its last. -/
def readWhole (bytes : List UInt8) : Except Corruption (List Row) := do
  let reader ← Reader.start bytes
  reader.readAll

theorem readWhole_append (bytes more : List UInt8) (added : more ≠ []) :
    ((∃ rows, readWhole bytes = .ok rows) → readWhole (bytes ++ more) = .error .trailingData) ∧
      ((∃ rows, readWhole (bytes ++ more) = .ok rows) →
        ∃ part, readWhole bytes = .error (.truncated part)) := by
  cases front : decodeHeader bytes with
  | error cause =>
    have failed : readWhole bytes = .error cause := by
      rw [readWhole, Reader.start_eq, front]
      rfl
    constructor
    · rintro ⟨rows, read⟩
      rw [failed] at read
      cases read
    · rintro ⟨rows, read⟩
      rw [readWhole, Reader.start_eq] at read
      cases whole : decodeHeader (bytes ++ more) with
      | error other =>
        rw [whole] at read
        cases read
      | ok found =>
        obtain ⟨part, rfl⟩ := selfDelimiting_decodeHeader.cut front found whole
        exact ⟨part, failed⟩
  | ok found =>
    obtain ⟨schema, rest⟩ := found
    have extended := selfDelimiting_decodeHeader.extend front more
    let reader : Reader := { schema, rest, rowsRead := 0, finished := false }
    have short : readWhole bytes = reader.readAll := by
      rw [readWhole, Reader.start_eq, front]
      rfl
    have long : readWhole (bytes ++ more) = (reader.followedBy more).readAll := by
      rw [readWhole, Reader.start_eq, extended]
      rfl
    obtain ⟨noticed, missed⟩ := Reader.rowsWithin_followedBy more added (reader.rest.length + 1)
      reader ((reader.followedBy more).rest.length + 1) rfl (Nat.lt_succ_self _)
      (Nat.lt_succ_self _)
    rw [short, long, Reader.readAll_ok_iff, Reader.readAll_ok_iff, Reader.readAll_error_iff]
    simp only [Reader.readAll_error_iff]
    exact ⟨noticed, missed⟩

/-- The encoding is prefix-free: whatever is cut off a batch, at its end or anywhere
before it, is reported as cut off, and whatever is added to one as too much. -/
theorem batch_prefix_free {bytes : List UInt8} {rows : List Row}
    (complete : readWhole bytes = .ok rows) :
    (∀ front, front <+: bytes → front ≠ bytes →
      ∃ part, readWhole front = .error (.truncated part)) ∧
    (∀ longer, bytes <+: longer → longer ≠ bytes →
      readWhole longer = .error .trailingData) := by
  constructor
  · rintro front ⟨more, rfl⟩ proper
    have added : more ≠ [] := by
      rintro rfl
      exact proper (List.append_nil front).symm
    exact (readWhole_append front more added).2 ⟨rows, complete⟩
  · rintro longer ⟨more, rfl⟩ proper
    have added : more ≠ [] := by
      rintro rfl
      exact proper (List.append_nil bytes)
    exact (readWhole_append bytes more added).1 ⟨rows, complete⟩

def listBatch : List UInt8 :=
  batchOf listSchema [[[.list [.int 7, .null]]], [[.list []]]]

theorem listBatch_cut_or_extended :
    readWhole listBatch = .ok [[.list [.int 7, .null]], [.list []]] ∧
      (∃ part, readWhole (listBatch.take 3) = .error (.truncated part)) ∧
      (∃ part, readWhole listBatch.dropLast = .error (.truncated part)) ∧
      readWhole (listBatch ++ listBatch) = .error .trailingData := by
  have complete : readWhole listBatch = .ok [[.list [.int 7, .null]], [.list []]] := by
    have opened := Reader.start_written listSchema
      ([[[.list [.int 7, .null]]], [[.list []]]].flatMap frameOf ++ terminator) (by decide)
      (by decide +kernel)
    rw [readWhole, listBatch, batchOf, opened]
    rfl
  obtain ⟨cut, extended⟩ := batch_prefix_free complete
  refine ⟨complete, ?_, ?_, ?_⟩
  · exact cut _ (List.take_prefix 3 _) (by decide +kernel)
  · exact cut _ (List.dropLast_prefix _) (by decide +kernel)
  · exact extended _ (List.prefix_append _ _) (by decide +kernel)

end TableLoad.Batch

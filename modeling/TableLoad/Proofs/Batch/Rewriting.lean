import Mathlib.Logic.Basic
import TableLoad.Proofs.Batch.PrefixFree
import TableLoad.Proofs.Batch.Whole
import TableLoad.Proofs.Schema.Spellings

/-!
# Batches written again

A reader accepts more than a writer writes: any byte but zero is true, a duration
may be given in parts that are not normal, frames may be cut anywhere and a header
spelled in many ways.  But the rows it gives are rows that conform to the schema it
gives, so they can be written again and come back.
-/

set_option autoImplicit false

namespace TableLoad.Batch

open Value

/-! ## What a decoder can give -/

theorem read_of_bind {α β : Type} {decoder : Decoder α} {next : α → Decoder β}
    {bytes rest : List UInt8} {result : β} (read : (decoder >>= next) bytes = .ok (result, rest)) :
    ∃ value left, decoder bytes = .ok (value, left) ∧ next value left = .ok (result, rest) := by
  cases front : decoder bytes with
  | error cause =>
    rw [bind_of_error next front] at read
    cases read
  | ok found =>
    obtain ⟨value, left⟩ := found
    rw [bind_of_ok next front] at read
    exact ⟨value, left, rfl, read⟩

/-- Whatever the decoder reads has the property. -/
structure Gives {α : Type} (decoder : Decoder α) (good : α → Prop) : Prop where
  holds : ∀ bytes value rest, decoder bytes = .ok (value, rest) → good value

namespace Gives

variable {α β : Type}

theorem any (decoder : Decoder α) : Gives decoder fun _ => True := by
  constructor
  intro _ _ _ _
  trivial

theorem pure {good : α → Prop} (value : α) (holds : good value) :
    Gives (pure value : Decoder α) good := by
  constructor
  intro bytes result rest read
  cases read
  exact holds

theorem throw {good : α → Prop} (cause : Corruption) : Gives (throw cause : Decoder α) good := by
  constructor
  intro bytes value rest read
  cases read

theorem bind {decoder : Decoder α} {next : α → Decoder β} {fine : α → Prop} {good : β → Prop}
    (first : Gives decoder fine) (later : ∀ value, fine value → Gives (next value) good) :
    Gives (decoder >>= next) good := by
  constructor
  intro bytes result rest read
  obtain ⟨value, left, front, back⟩ := read_of_bind read
  exact (later value (first.holds bytes value left front)).holds left result rest back

theorem after {good : β → Prop} (decoder : Decoder α) {next : α → Decoder β}
    (later : ∀ value, Gives (next value) good) : Gives (decoder >>= next) good :=
  (any decoder).bind fun value _ => later value

theorem many {decoder : Decoder α} {good : α → Prop} (each : Gives decoder good) (count : Nat) :
    Gives (decodeMany decoder count) fun found => ∀ value ∈ found, good value := by
  induction count with
  | zero =>
    apply pure
    intro value member
    cases member
  | succ count ih =>
    apply each.bind
    intro first holds
    apply ih.bind
    intro others all
    apply pure
    intro value member
    cases member with
    | head => exact holds
    | tail _ later => exact all value later

theorem pair {decoder : Decoder Value} {good : Value → Prop} (each : Gives decoder good) :
    Gives (decodePair decoder) fun entry => good entry.1 ∧ good entry.2 := by
  apply each.bind
  intro key first
  apply each.bind
  intro value second
  apply pure
  exact ⟨first, second⟩

end Gives

/-! ## Values that are made -/

/-- No record in the value carries names, and every time in it is on the clock. -/
structure Made (value : Value) : Prop where
  plain : value.unnamed = value
  onClock : offClock? value = none

theorem made_items (items : List Value) (made : ∀ item ∈ items, Made item) :
    unnamedItems items = items ∧ itemsOffClock? items = none := by
  induction items with
  | nil => exact ⟨rfl, rfl⟩
  | cons item rest ih =>
    obtain ⟨plain, onClock⟩ := made item List.mem_cons_self
    obtain ⟨others, later⟩ := ih fun other member => made other (List.mem_cons_of_mem item member)
    rw [unnamedItems, plain, others, itemsOffClock?, onClock, later]
    exact ⟨rfl, rfl⟩

theorem made_pairs (entries : List (Value × Value))
    (made : ∀ entry ∈ entries, Made entry.1 ∧ Made entry.2) :
    unnamedPairs entries = entries ∧ pairsOffClock? entries = none := by
  induction entries with
  | nil => exact ⟨rfl, rfl⟩
  | cons entry rest ih =>
    obtain ⟨key, value⟩ := entry
    obtain ⟨first, second⟩ := made (key, value) List.mem_cons_self
    obtain ⟨others, later⟩ :=
      ih fun other member => made other (List.mem_cons_of_mem (key, value) member)
    rw [unnamedPairs, first.plain, second.plain, others, pairsOffClock?, first.onClock,
      second.onClock, later]
    exact ⟨rfl, rfl⟩

theorem made_container {decoder : Decoder Value} (each : Gives decoder Made) (kind : Container) :
    Gives (decodeContainer decoder kind) Made := by
  cases kind with
  | list =>
    apply Gives.after
    intro count
    apply (each.many count).bind
    intro items made
    obtain ⟨plain, onClock⟩ := made_items items made
    apply Gives.pure
    exact ⟨congrArg Value.list plain, onClock⟩
  | map =>
    apply Gives.after
    intro count
    apply (each.pair.many count).bind
    intro entries made
    obtain ⟨plain, onClock⟩ := made_pairs entries made
    apply Gives.pure
    exact ⟨congrArg Value.map plain, onClock⟩
  | row =>
    apply Gives.after
    intro count
    apply (each.many count).bind
    intro items made
    obtain ⟨plain, onClock⟩ := made_items items made
    apply Gives.pure
    exact ⟨by rw [unnamed, plain], onClock⟩

theorem made_string : Gives decodeString Made := by
  apply Gives.after
  intro content
  cases Utf8.decode content with
  | ok text => exact Gives.pure _ ⟨rfl, rfl⟩
  | error fault => exact Gives.throw _

theorem made_once {α : Type} (decoder : Decoder α) (make : α → Value)
    (leaf : ∀ content, Made (make content)) :
    Gives (decoder >>= fun content => pure (make content)) Made :=
  Gives.after decoder fun content => Gives.pure (make content) (leaf content)

theorem made_checked {α β : Type} (decoder : Decoder α) (make? : α → Option β)
    (cause : α → Corruption) (make : β → Value)
    (leaf : ∀ content found, make? content = some found → Made (make found)) :
    Gives (decoder >>= fun content =>
      orFail (make? content) (cause content) >>= fun found => pure (make found)) Made := by
  apply Gives.after
  intro content
  cases found : make? content with
  | none => exact Gives.throw (cause content)
  | some value => exact Gives.pure (make value) (leaf content value found)

theorem made_leaf (tag : UInt8) (decode : Decoder Value) :
    announced? tag = some (.leaf decode) → Gives decode Made := by
  intro announced
  unfold announced? at announced
  -- One tag after the other; the tags of containers announce no leaf.
  repeat
    replace announced := ite_eq_iff.mp announced
    obtain ⟨_, found⟩ | ⟨_, announced⟩ := announced
    · cases found <;>
        first
          | exact Gives.pure null ⟨rfl, rfl⟩
          | exact made_once _ _ fun _ => ⟨rfl, rfl⟩
          | exact made_checked _ _ _ _ fun _ _ _ => ⟨rfl, rfl⟩
          | exact made_checked _ _ _ _ fun _ _ made =>
              ⟨rfl, if_pos (Calendar.TimeOfDay.isOnClock_of_made made)⟩
          | exact made_checked _ _ _ _ fun _ _ made =>
              ⟨rfl, if_pos (Calendar.Timestamp.isOnClock_of_made made)⟩
          | exact made_string
  cases announced

theorem read_after_tag {room : Nat} {bytes rest : List UInt8} {value : Value}
    (read : decodeWithin room bytes = .ok (value, rest)) :
    ∃ tag content, bytes = tag :: content ∧
      ((∃ decode, announced? tag = some (.leaf decode) ∧ decode content = .ok (value, rest)) ∨
        ∃ kind less, announced? tag = some (.container kind) ∧ room = less + 1 ∧
          decodeContainer (decodeWithin less) kind content = .ok (value, rest)) := by
  cases bytes with
  | nil =>
    unfold decodeWithin at read
    cases read
  | cons tag content =>
    refine ⟨tag, content, rfl, ?_⟩
    unfold decodeWithin at read
    cases announced : announced? tag with
    | none =>
      rw [announced] at read
      cases read
    | some kind =>
      rw [announced] at read
      cases kind with
      | leaf decode => exact .inl ⟨decode, rfl, read⟩
      | container kind =>
        cases room with
        | zero => cases read
        | succ less => exact .inr ⟨kind, less, rfl, rfl, read⟩

theorem made_within (room : Nat) : Gives (decodeWithin room) Made := by
  induction room with
  | zero =>
    constructor
    intro bytes value rest read
    obtain ⟨tag, content, _, ⟨decode, announced, leaf⟩ | ⟨_, _, _, none, _⟩⟩ :=
      read_after_tag read
    · exact (made_leaf tag decode announced).holds content value rest leaf
    · cases none
  | succ room ih =>
    constructor
    intro bytes value rest read
    obtain ⟨tag, content, _, ⟨decode, announced, leaf⟩ | ⟨kind, less, _, same, parts⟩⟩ :=
      read_after_tag read
    · exact (made_leaf tag decode announced).holds content value rest leaf
    · obtain rfl := Nat.succ.inj same
      exact (made_container ih kind).holds content value rest parts

/-! ## Rows -/

/-- The row belongs to the columns and is what a reader gives for it. -/
structure Settled (fields : List Field) (row : Row) : Prop where
  conforms : RowConforms fields row
  plain : row.unnamed = row
  onClock : itemsOffClock? row = none

theorem Settled.fits {fields : List Field} {row : Row} (settled : Settled fields row) :
    RowFits fields row :=
  (rowFits_iff fields row).mpr ⟨settled.conforms, settled.onClock⟩

theorem settled_fields (index : Nat) (fields : List Field) :
    Gives (decodeFields index fields) (Settled fields) := by
  induction fields with
  | nil =>
    apply Gives.pure
    exact ⟨List.Forall₂.nil, rfl, rfl⟩
  | cons field fields ih =>
    apply (made_within maxNesting).bind
    intro value made
    cases fit : conforms field.2 value with
    | false =>
      exact Gives.throw _
    | true =>
      apply ih.bind
      intro row settled
      apply Gives.pure
      refine ⟨List.Forall₂.cons fit settled.conforms, ?_, ?_⟩
      · exact congrArg₂ List.cons made.plain settled.plain
      · rw [itemsOffClock?, made.onClock, settled.onClock]
        rfl

theorem settled_rows (fields : List Field) (count : Nat) :
    ∀ index bytes rows rest next, decodeRows fields count index bytes = (.ok (rows, rest), next) →
      ∀ row ∈ rows, Settled fields row := by
  induction count with
  | zero =>
    intro index bytes rows rest next read row member
    cases read
    cases member
  | succ count ih =>
    intro index bytes rows rest next read
    unfold decodeRows at read
    cases first : decodeFields index fields bytes with
    | error cause =>
      rw [first] at read
      cases read
    | ok found =>
      obtain ⟨values, left⟩ := found
      rw [first] at read
      have settled := (settled_fields index fields).holds bytes values left first
      cases later : decodeRows fields count (index + 1) left with
      | mk outcome after =>
        simp only [later] at read
        cases outcome with
        | error cause => cases read
        | ok others =>
          obtain ⟨others, end_⟩ := others
          cases read
          intro row member
          cases member with
          | head => exact settled
          | tail _ inside => exact ih (index + 1) left others rest next later row inside

theorem settled_frame (fields : List Field) (index : Nat) (content : List UInt8)
    (rows : List Row) (next : Nat) :
    decodeFrame fields index content = (.ok rows, next) → ∀ row ∈ rows, Settled fields row := by
  intro read
  unfold decodeFrame at read
  split at read
  · cases read
  · rename_i found after decoded
    cases read
    exact settled_rows fields _ index _ rows [] next decoded
  · cases read

namespace Reader

theorem settled_nextFrame (reader after : Reader) (rows : List Row) :
    reader.nextFrame = (.ok (some rows), after) →
      after.schema = reader.schema ∧ ∀ row ∈ rows, Settled reader.schema.fields row := by
  intro step
  cases unfinished : reader.finished with
  | true =>
    simp only [nextFrame, unfinished, if_true] at step
    cases step
  | false =>
    have frame := nextFrame_eq reader unfinished
    split at frame
    · rw [step] at frame
      cases frame
    · rw [step] at frame
      split at frame
      · cases frame
      · cases frame
    · rename_i content rest taken
      rw [step] at frame
      split at frame
      · rename_i found next decoded
        cases frame
        exact ⟨rfl, settled_frame _ _ content rows next decoded⟩
      · cases frame

theorem settled_rowsWithin (limit : Nat) :
    ∀ reader : Reader, ∀ row ∈ (reader.rowsWithin limit).1, Settled reader.schema.fields row := by
  induction limit with
  | zero =>
    intro reader row member
    cases member
  | succ limit ih =>
    intro reader row member
    cases step : reader.nextFrame with
    | mk outcome after =>
      cases outcome with
      | error cause =>
        rw [rowsWithin_of_error limit (congrArg Prod.fst step)] at member
        cases member
      | ok frame =>
        cases frame with
        | none =>
          rw [rowsWithin_of_end limit (congrArg Prod.fst step)] at member
          cases member
        | some rows =>
          obtain ⟨same, settled⟩ := settled_nextFrame reader after rows step
          rw [rowsWithin_of_rows limit step, List.mem_append] at member
          cases member with
          | inl front => exact settled row front
          | inr back => exact same ▸ ih after row back

end Reader

/-! ## Headers -/

theorem takePart_read {part : Part} {count : Nat} {bytes taken rest : List UInt8}
    (read : takePart part count bytes = .ok (taken, rest)) :
    taken.length = count ∧ taken.length + rest.length = bytes.length := by
  unfold takePart at read
  split at read
  · rename_i split
    cases read
    obtain ⟨rfl, size⟩ := eq_append_of_splitExact split
    exact ⟨size, List.length_append.symm⟩
  · cases read

theorem decodeHeader_read (bytes rest : List UInt8) (schema : Schema) :
    decodeHeader bytes = .ok (schema, rest) →
      ∃ content, Schema.ofHeader content = .ok schema ∧
        content.length ≤ maxFrameBytes ∧ content.length ≤ bytes.length := by
  intro read
  unfold decodeHeader at read
  obtain ⟨found, afterMagic, first, read⟩ := read_of_bind read
  split at read
  · cases read
  obtain ⟨version, afterVersion, second, read⟩ := read_of_bind read
  split at read
  · cases read
  obtain ⟨length, afterLength, third, read⟩ := read_of_bind read
  dsimp only at read
  split at read
  · cases read
  rename_i allowed
  obtain ⟨content, left, fourth, read⟩ := read_of_bind read
  have one := takePart_read first
  have two := takePart_read second
  have three := takePart_read third
  have four := takePart_read fourth
  refine ⟨content, ?_, by omega, by omega⟩
  cases made : Schema.ofHeader content with
  | ok other =>
    rw [made] at read
    cases read
    rfl
  | error fault =>
    rw [made] at read
    cases read

/-- The schema of a batch can be written and, if its header is not too long, opened. -/
theorem Reader.schema_of_start (bytes : List UInt8) (reader : Reader) :
    Reader.start bytes = .ok reader →
      reader.schema.openLevels ≤ DataType.maxOpen ∧
        reader.schema.header.length ≤ 8 * maxFrameBytes ∧
        reader.schema.header.length ≤ 8 * bytes.length := by
  intro started
  rw [Reader.start_eq] at started
  split at started
  · rename_i schema rest decoded
    cases started
    obtain ⟨content, found, allowed, inside⟩ := decodeHeader_read bytes rest schema decoded
    obtain ⟨levels, length⟩ := Schema.own_header_of_read content schema found
    dsimp only
    exact ⟨levels, by omega, by omega⟩
  · cases started

/-! ## Whole batches -/

theorem Reader.rows_written (schema : Schema) (groups : List (List Row)) :
    (∀ group ∈ groups, Fitting group) →
    (∀ row ∈ groups.flatten, Storable schema.fields row) →
    (∀ row ∈ groups.flatten, RowFits schema.fields row) →
      Reader.rows ⟨schema, groups.flatMap frameOf ++ terminator, 0, false⟩ =
        (groups.flatten.map Row.unnamed, none) := by
  intro fitting storable fine
  have count := Reader.groups_le_bytes groups
  have good := (firstMisfit_eq_none schema.fields 0 groups.flatten
    fun row member => (storable row member).width).mpr fine
  have read := Reader.rowsWithin_written groups
    ⟨schema, groups.flatMap frameOf ++ terminator, 0, false⟩
    ((groups.flatMap frameOf ++ terminator).length + 1)
    (by rw [List.length_append]; omega) rfl rfl fitting
    (fun group member row inside => storable row (List.mem_flatten.mpr ⟨group, member, inside⟩))
  rw [good] at read
  exact read

/-- Whatever a reader reads to the end can be written with any batch size, if the
rows fit into frames, and is read back as the same rows of the same schema.  The
header that is written is under the limit of a frame as well: it is at most eight
times as long as the batch that was read, and only a header beyond the limit is
refused. -/
theorem read_batch_rewritten {ε : Type} (wrap : Error → ε) (bytes : List UInt8) (reader : Reader)
    (rows : List Row) (batchSize : Nat) :
    Reader.start bytes = .ok reader →
    reader.rows = (rows, none) →
    (∀ group ∈ frameGroups batchSize rows, Fitting group) →
      ∃ written,
        serialize wrap reader.schema batchSize (rows.map .ok) = (.ok rows.length, written) ∧
        reader.schema.header.length ≤ 8 * bytes.length ∧
        (reader.schema.header.length ≤ maxFrameBytes →
          (∃ again, Reader.start written = .ok again ∧ again.schema = reader.schema ∧
            again.rows = (rows, none)) ∧
          deserialize written reader.schema = .ok rows) ∧
        (maxFrameBytes < reader.schema.header.length →
          Reader.start written = .error (.headerLength reader.schema.header.length)) := by
  intro started read fitting
  have limit : maxFrameBytes = 268435456 := rfl
  obtain ⟨levels, short, inside⟩ := Reader.schema_of_start bytes reader started
  have whole : (frameGroups batchSize rows).flatten = rows := by
    rw [frameGroups, flatten_groupsFrom, List.nil_append]
  have settled : ∀ row ∈ rows, Settled reader.schema.fields row := by
    have all := Reader.settled_rowsWithin (reader.rest.length + 1) reader
    rw [← Reader.rows, read] at all
    exact all
  -- Rows that were read conform, and so nest no deeper than the schema, which was read too.
  have storable : ∀ row ∈ rows, Storable reader.schema.fields row := by
    intro row member
    rw [← whole] at member
    obtain ⟨group, among, held⟩ := List.mem_flatten.mp member
    have bytes := (fitting group among).bytes
    have bound := row_le group row held
    rw [whole] at member
    exact storable_of_conforms reader.schema levels row (settled row member).conforms (by omega)
  have plain : rows.map Row.unnamed = rows :=
    (List.map_congr_left fun row member => (settled row member).plain).trans (List.map_id rows)
  have written := serialize_written wrap reader.schema batchSize rows (by omega)
    (fun row member => (storable row member).width)
    (fun row member => (storable row member).short)
    (fun group member => (fitting group member).bytes)
  have again := Reader.rows_written reader.schema (frameGroups batchSize rows) fitting
    (by rw [whole]; exact storable)
    (by rw [whole]; exact fun row member => (settled row member).fits)
  rw [whole, plain] at again
  refine ⟨_, written, inside, ?_, ?_⟩
  · intro header
    have opened := Reader.start_written reader.schema
      ((frameGroups batchSize rows).flatMap frameOf ++ terminator) levels header
    refine ⟨⟨_, opened, rfl, again⟩, ?_⟩
    rw [deserialize, batchOf, opened]
    simp only [bind, Except.bind, Reader.expectSchema, if_true, Reader.readAll, again]
  · intro long
    rw [Reader.start_eq, batchOf, decodeHeader_header reader.schema (by omega), if_pos long]

def flagSchema : Schema where
  fields := [("flag", .atom .boolean false), ("lag", .atom .interval true)]
  wellFormed := rfl

/-- The header of the flags, its first column a list and its second an object with
members in another order. -/
def looseHeader : List UInt8 :=
  ("[[\"flag\",[\"boolean\",false]], " ++
    "\x7b\"data_type\":\x7b\"nullable\":true,\"kind\":\"interval\"\x7d,\"name\":\"lag\"\x7d]"
    ).toList.map Json.byte

def looseFrames : List UInt8 :=
  frame 1 [1, 2, 0] ++ (frame 0 [] ++ (frame 1 [1, 0, 0] ++ terminator))

def looseBatch : List UInt8 :=
  magic ++ formatVersion :: (lengthBytes looseHeader.length ++ (looseHeader ++ looseFrames))

def flagRows : List Row :=
  [[.bool true, .null], [.bool false, .null]]

theorem loose_batch_rewritten :
    ∃ reader written, Reader.start looseBatch = .ok reader ∧ reader.rows = (flagRows, none) ∧
      serialize id reader.schema 1000 (flagRows.map .ok) = (.ok 2, written) ∧
      deserialize written reader.schema = .ok flagRows := by
  have opened : (Reader.start looseBatch).map
      (fun reader => (reader.schema, reader.rest, reader.rowsRead, reader.finished)) =
        .ok (flagSchema, looseFrames, 0, false) := by decide +kernel
  have groups : frameGroups 1000 flagRows = [flagRows] := rfl
  have fitting : ∀ group ∈ frameGroups 1000 flagRows, Fitting group := by
    rw [groups]
    simp only [List.mem_singleton, forall_eq]
    exact ⟨by decide, by decide +kernel⟩
  cases started : Reader.start looseBatch with
  | error cause =>
    rw [started] at opened
    cases opened
  | ok reader =>
    obtain ⟨schema, rest, rowsRead, finished⟩ := reader
    rw [started] at opened
    cases opened
    have read : Reader.rows ⟨flagSchema, looseFrames, 0, false⟩ = (flagRows, none) := rfl
    obtain ⟨written, again, _, back⟩ :=
      read_batch_rewritten id looseBatch _ flagRows 1000 started read fitting
    exact ⟨_, written, rfl, read, again, (back.1 (by decide +kernel)).2⟩

end TableLoad.Batch

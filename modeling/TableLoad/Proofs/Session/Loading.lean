import TableLoad.Proofs.Batch.Whole
import TableLoad.Proofs.Conversion.Collections
import TableLoad.Proofs.Engine.Tables
import TableLoad.Proofs.Session.Running
import TableLoad.Session.Catalog

/-!
# Loading elements

A collection loads exactly when all of its elements are accepted by the converter
made for it and no time in their rows is off the clock, verified or not: what conversion
lets pass, the engine refuses when it reads the batch.
-/

set_option autoImplicit false

namespace TableLoad

/-! ## Scratch directories -/

namespace Scratch

theorem content_of_write (scratch : Scratch) (bytes : List UInt8)
    (available : scratch.available = true) :
    (scratch.make.2.write scratch.made bytes).content? scratch.made = some bytes := by
  simp [make, available, write, content?]

theorem remove_write (scratch : Scratch) (directory : Nat) (bytes : List UInt8) :
    (scratch.write directory bytes).remove directory = scratch.remove directory := by
  simp only [write, remove]
  congr 1
  induction scratch.directories with
  | nil => rfl
  | cons held rest ih =>
    by_cases same : held.1 = directory <;> simpa [same] using ih

end Scratch

namespace Disk

def swept (disk : Disk) : Disk :=
  { disk with scratch := disk.scratch.make.2.remove disk.scratch.made }

end Disk

namespace Session

/-! ## The dialogue of a load -/

/-- The bytes of the batch of some elements, and their number or the first
failure. -/
def batchOfElements (converter : Converter) (batchSize : Nat) (elements : List Record) :
    Except Failure Nat × List UInt8 :=
  Batch.serialize .batch converter.schema batchSize
    ((converter.convertAll elements).map (Except.mapError .validation))

def tableIn : Response → Option Table
  | .table table => some table
  | _ => none

def readRequest (schema : Schema) (bytes : List UInt8) : Request :=
  .readBatchFile { path := Scratch.fileName, content := some bytes } schema

theorem dialogue_writeElements (converter : Converter) (batchSize : Nat) (elements : List Record)
    (directory : Nat) (disk : Disk) :
    (writeElements converter batchSize elements directory).dialogue disk =
      .done ((batchOfElements converter batchSize elements).1,
        { disk with
          scratch :=
            disk.scratch.write directory (batchOfElements converter batchSize elements).2 }) := by
  simp only [writeElements, dialogue_bind, dialogue_onScratch, Dialogue.bind, dialogue_given]
  rfl

theorem dialogue_readScratch (schema : Schema) (directory : Nat) (disk : Disk)
    (bytes : List UInt8) (written : disk.scratch.content? directory = some bytes) :
    (readScratch schema directory).dialogue disk =
      .ask (readRequest schema bytes) fun answer =>
        .done (answer >>= understood (readRequest schema bytes) tableIn, disk) := by
  unfold readScratch
  rw [dialogue_bind, dialogue_onScratch]
  simp only [Dialogue.bind, written]
  exact dialogue_request (readRequest schema bytes) tableIn disk

/-- A load does everything before its question, and nothing that depends on the
answer but to pass it on. -/
theorem dialogue_loadElements (converter : Converter) (batchSize : Nat) (elements : List Record)
    (disk : Disk) (available : disk.scratch.available = true) :
    (loadElements converter batchSize elements).dialogue disk =
      match batchOfElements converter batchSize elements with
      | (.error failure, _) => .done (.error failure, disk.swept)
      | (.ok _, bytes) =>
        .ask (readRequest converter.schema bytes) fun answer =>
          .done (answer >>= understood (readRequest converter.schema bytes) tableIn,
            disk.swept) := by
  have made : disk.scratch.make.1 = .ok disk.scratch.made := by
    simp [Scratch.make, available]
  unfold loadElements withScratch
  simp only [dialogue_bind, dialogue_onScratch, Dialogue.bind, made, dialogue_ofExcept,
    Except.mapError, dialogue_cleaningUp, dialogue_writeElements]
  cases batchOfElements converter batchSize elements with
  | mk outcome bytes =>
    cases outcome with
    | error failure => simp [Dialogue.bind, Disk.swept, Scratch.remove_write]
    | ok count =>
      have written := Scratch.content_of_write disk.scratch bytes available
      have read := dialogue_readScratch converter.schema disk.scratch.made
        { disk with scratch := disk.scratch.make.2.write disk.scratch.made bytes } bytes written
      simp [Dialogue.bind, read, Disk.swept, Scratch.remove_write]

/-- The whole load: the rows go through a batch into the engine, and the disk is
left as if nothing had been written. -/
theorem runWith_loadElements (converter : Converter) (batchSize : Nat) (elements : List Record)
    (disk : Disk) (engine : Engine) (available : disk.scratch.available = true) :
    runWith Engine.call (loadElements converter batchSize elements) disk engine =
      match batchOfElements converter batchSize elements with
      | (.error failure, _) => ((.error failure, disk.swept), engine)
      | (.ok _, bytes) =>
        match Batch.deserialize bytes converter.schema with
        | .error cause => ((.error (.batch (.corrupt cause)), disk.swept), engine)
        | .ok rows =>
          ((.ok (engine.store converter.schema rows).1, disk.swept),
            (engine.store converter.schema rows).2) := by
  rw [runWith_eq, dialogue_loadElements converter batchSize elements disk available]
  cases batchOfElements converter batchSize elements with
  | mk count bytes =>
    cases count with
    | error failure => rfl
    | ok count =>
      simp only [Dialogue.run, readRequest, Engine.call, Engine.readBatchFile]
      cases Batch.deserialize bytes converter.schema with
      | error cause => rfl
      | ok rows => rfl

/-! ## Within the limits of batches -/

/-- The header of the schema can be read, and each frame of the rows that the
elements convert to can be written and read. -/
structure WithinLimits (batchSize : Nat) (converter : Converter) (elements : List Record) :
    Prop where
  levels : converter.schema.openLevels ≤ DataType.maxOpen
  header : converter.schema.header.length ≤ Batch.maxFrameBytes
  frames : ∀ rows, { converter with verifies := false }.convertAll elements = rows.map .ok →
    ∀ group ∈ Batch.frameGroups batchSize rows, Batch.Fitting group

variable {batchSize : Nat} {converter : Converter} {elements : List Record}

theorem storable_of_converted {rows : List Row}
    (named : converter.lookupNames.length = converter.schema.fields.length)
    (limits : WithinLimits batchSize converter elements)
    (all : converter.convertAll elements = rows.map .ok) :
    ∀ row ∈ rows, Batch.Storable converter.schema.fields row := by
  intro row member
  obtain ⟨width, _, nesting⟩ := converter.plain_of_convertAll elements rows named all row member
  have depth := converter.schema.depth_le limits.levels
  have most : Batch.maxNesting = 64 := rfl
  have limit : Batch.maxFrameBytes = 268435456 := rfl
  have whole : (Batch.frameGroups batchSize rows).flatten = rows :=
    Batch.flatten_groupsFrom _ [] rows
  obtain ⟨group, inside, within⟩ := List.mem_flatten.mp (whole ▸ member)
  have fit := (limits.frames rows (Converter.unverified_of_convertAll named all) group inside).bytes
  have part := Batch.row_le group row within
  have small : (Batch.encodeRow row).length < 2 ^ 32 := by omega
  exact ⟨width, Batch.itemsTooLong_of_small row small, by omega⟩

theorem batchOfElements_of_converted {rows : List Row}
    (all : converter.convertAll elements = rows.map .ok) :
    batchOfElements converter batchSize elements =
      Batch.serialize .batch converter.schema batchSize (rows.map .ok) := by
  rw [batchOfElements, all, List.map_map]
  rfl

/-- Elements that convert load unless there is a misfit in one of their rows. -/
theorem runWith_loadElements_rows (rows : List Row) (disk : Disk) (engine : Engine)
    (available : disk.scratch.available = true)
    (named : converter.lookupNames.length = converter.schema.fields.length)
    (limits : WithinLimits batchSize converter elements)
    (all : converter.convertAll elements = rows.map .ok) :
    runWith Engine.call (loadElements converter batchSize elements) disk engine =
      match Batch.firstMisfit? converter.schema.fields 0 rows with
      | none =>
        ((.ok (engine.store converter.schema rows).1, disk.swept),
          (engine.store converter.schema rows).2)
      | some (bad, misfit) =>
        ((.error (.batch (.corrupt (Batch.misfitIn bad misfit))), disk.swept), engine) := by
  have limit : Batch.maxFrameBytes = 268435456 := rfl
  have frames := limits.frames rows (Converter.unverified_of_convertAll named all)
  have storable := storable_of_converted named limits all
  have whole : (Batch.frameGroups batchSize rows).flatten = rows :=
    Batch.flatten_groupsFrom _ [] rows
  have unnamed : rows.map Row.unnamed = rows := by
    rw [List.map_congr_left fun row member =>
      (converter.plain_of_convertAll elements rows named all row member).2.1, List.map_id']
  have header := limits.header
  -- All rows are written, and what is read of them decides the load.
  have written := Batch.serialize_written Failure.batch converter.schema batchSize rows
    (by omega) (fun row member => (storable row member).width)
    (fun row member => (storable row member).short)
    (fun group member => (frames group member).bytes)
  have read := Batch.deserialize_written converter.schema (Batch.frameGroups batchSize rows)
    limits.levels limits.header frames (by rw [whole]; exact storable)
  rw [whole, unnamed] at read
  rw [runWith_loadElements converter batchSize elements disk engine available,
    batchOfElements_of_converted all, written]
  simp only [read]
  cases Batch.firstMisfit? converter.schema.fields 0 rows with
  | none => rfl
  | some found => rfl

theorem runWith_loadElements_accepted (rows : List Row) (disk : Disk) (engine : Engine)
    (available : disk.scratch.available = true)
    (named : converter.lookupNames.length = converter.schema.fields.length)
    (limits : WithinLimits batchSize converter elements)
    (accepted : converter.Accepts elements rows) (onClock : Batch.rowsOffClock? rows = none) :
    converter.convertAll elements = rows.map .ok ∧
      runWith Engine.call (loadElements converter batchSize elements) disk engine =
        ((.ok (engine.store converter.schema rows).1, disk.swept),
          (engine.store converter.schema rows).2) := by
  obtain ⟨_, conform⟩ := (converter.accepts_iff elements rows named).mp accepted
  have all := Converter.convertAll_of_accepts named accepted
  have good := (Batch.firstMisfit_eq_none converter.schema.fields 0 rows fun row member =>
    (storable_of_converted named limits all row member).width).mpr
      ((Batch.rowsFit_iff _ rows).mpr ⟨conform, onClock⟩)
  have run := runWith_loadElements_rows rows disk engine available named limits all
  rw [good] at run
  exact ⟨all, run⟩

theorem runWith_loadElements_refused (disk : Disk) (engine : Engine)
    (available : disk.scratch.available = true)
    (named : converter.lookupNames.length = converter.schema.fields.length)
    (limits : WithinLimits batchSize converter elements)
    (refused : ¬∃ rows, converter.Accepts elements rows ∧ Batch.rowsOffClock? rows = none) :
    ∃ failure, runWith Engine.call (loadElements converter batchSize elements) disk engine =
      ((.error failure, disk.swept), engine) := by
  rcases all_ok_or_error (converter.convertAll elements) with ⟨rows, all⟩ | ⟨error, member⟩
  · have run := runWith_loadElements_rows rows disk engine available named limits all
    cases found : Batch.firstMisfit? converter.schema.fields 0 rows with
    | some misfit =>
      rw [found] at run
      exact ⟨_, run⟩
    | none =>
      have fine := (Batch.firstMisfit_eq_none converter.schema.fields 0 rows fun row member =>
        (storable_of_converted named limits all row member).width).mp found
      obtain ⟨conform, onClock⟩ := (Batch.rowsFit_iff _ rows).mp fine
      have accepted := (converter.accepts_iff elements rows named).mpr
        ⟨Converter.unverified_of_convertAll named all, conform⟩
      exact absurd ⟨rows, accepted, onClock⟩ refused
  · have wrapped : .error (.validation error) ∈
        (converter.convertAll elements).map (Except.mapError Failure.validation) :=
      List.mem_map.mpr ⟨.error error, member, rfl⟩
    obtain ⟨first, failed⟩ :=
      Batch.serialize_of_error Failure.batch converter.schema batchSize _ _ wrapped
    refine ⟨first, ?_⟩
    rw [runWith_loadElements converter batchSize elements disk engine available]
    cases outcome : batchOfElements converter batchSize elements with
    | mk count bytes =>
      unfold batchOfElements at outcome
      rw [outcome] at failed
      simp only at failed
      rw [failed]

/-! ## From elements to rows -/

theorem runWith_fromElements (batchSize : Nat) (elements : List Record) (hint : Option Hint)
    (verify : Bool) (disk : Disk) (engine : Engine) :
    runWith Engine.call (fromElements batchSize elements hint verify) disk engine =
      match converterFor elements hint verify with
      | .error error => ((.error (.inference error), disk), engine)
      | .ok converter =>
        runWith Engine.call (loadElements converter batchSize elements) disk engine := by
  rw [fromElements, runWith_ofExcept]
  cases converterFor elements hint verify <;> rfl

theorem runWith_collect (table : TableId) (disk : Disk) (engine : Engine) (rows : List Row)
    (answered : (engine.call (.collectTable table)).1 = .ok (.rows rows)) :
    (runWith Engine.call (collect table) disk engine).1.1 = .ok rows := by
  rw [runWith_eq, collect, dialogue_request]
  simp only [Dialogue.run, answered]
  rfl

theorem fromElements_cases (batchSize : Nat) (elements : List Record) (hint : Option Hint)
    (verify : Bool) (converter : Converter) (disk : Disk) (engine : Engine)
    (available : disk.scratch.available = true)
    (made : converterFor elements hint verify = .ok converter)
    (limits : WithinLimits batchSize converter elements) :
    (∃ rows, converter.Accepts elements rows ∧ Batch.rowsOffClock? rows = none ∧
        converter.convertAll elements = rows.map .ok ∧
        runWith Engine.call (fromElements batchSize elements hint verify) disk engine =
          ((.ok (engine.store converter.schema rows).1, disk.swept),
            (engine.store converter.schema rows).2)) ∨
      (¬∃ rows, converter.Accepts elements rows ∧ Batch.rowsOffClock? rows = none) ∧
        ∃ failure, runWith Engine.call (fromElements batchSize elements hint verify) disk engine =
          ((.error failure, disk.swept), engine) := by
  have named := lookupNames_of_converterFor elements hint verify converter made
  have run := runWith_fromElements batchSize elements hint verify disk engine
  rw [made] at run
  by_cases accepted : ∃ rows, converter.Accepts elements rows ∧ Batch.rowsOffClock? rows = none
  · obtain ⟨rows, accepted, onClock⟩ := accepted
    obtain ⟨all, stored⟩ :=
      runWith_loadElements_accepted rows disk engine available named limits accepted onClock
    exact .inl ⟨rows, accepted, onClock, all, run.trans stored⟩
  · obtain ⟨failure, refused⟩ :=
      runWith_loadElements_refused disk engine available named limits accepted
    exact .inr ⟨accepted, failure, run.trans refused⟩

/-- With or without verification, a collection loads exactly when a converter is made
for it that accepts all of its elements and no time in their rows is off the clock, and then
its rows stay in the engine. -/
theorem fromElements_stores (batchSize : Nat) (elements : List Record) (hint : Option Hint)
    (verify : Bool) (disk : Disk) (engine : Engine) (available : disk.scratch.available = true)
    (limits : ∀ converter, converterFor elements hint verify = .ok converter →
      WithinLimits batchSize converter elements)
    (outcome : (Except Failure Table × Disk) × Engine)
    (run : runWith Engine.call (fromElements batchSize elements hint verify) disk engine =
      outcome) :
    ((∃ table, outcome.1.1 = .ok table) ↔
        ∃ converter rows, converterFor elements hint verify = .ok converter ∧
          converter.Accepts elements rows ∧ Batch.rowsOffClock? rows = none) ∧
      ∀ table converter, outcome.1.1 = .ok table →
        converterFor elements hint verify = .ok converter →
          table.schema = converter.schema ∧
            ∃ rows, converter.Accepts elements rows ∧ Batch.rowsOffClock? rows = none ∧
              converter.convertAll elements = rows.map .ok ∧
              ∀ later someDisk, (runWith Engine.call (collect table.id) someDisk
                (outcome.2.after later)).1.1 = .ok rows := by
  cases made : converterFor elements hint verify with
  | error cause =>
    have failed := runWith_fromElements batchSize elements hint verify disk engine
    rw [made, run] at failed
    subst failed
    simp
  | ok converter =>
    rcases fromElements_cases batchSize elements hint verify converter disk engine available made
        (limits converter made) with
      ⟨rows, accepted, onClock, all, stored⟩ | ⟨refused, failure, failed⟩
    · rw [run] at stored
      subst stored
      refine ⟨⟨fun _ => ⟨converter, rows, rfl, accepted, onClock⟩, fun _ => ⟨_, rfl⟩⟩, ?_⟩
      intro table other loaded same
      cases same
      cases loaded
      refine ⟨rfl, rows, accepted, onClock, all, fun later someDisk => ?_⟩
      exact runWith_collect _ someDisk _ rows (engine.rows_after_store _ rows later)
    · rw [run] at failed
      subst failed
      refine ⟨⟨fun loaded => ?_, fun loads => ?_⟩, ?_⟩
      · obtain ⟨table, impossible⟩ := loaded
        cases impossible
      · obtain ⟨other, rows, same, accepted, onClock⟩ := loads
        cases same
        exact absurd ⟨rows, accepted, onClock⟩ refused
      · intro table other impossible
        cases impossible

theorem fromElements_verify (batchSize : Nat) (elements : List Record) (hint : Option Hint)
    (disk : Disk) (engine : Engine) (available : disk.scratch.available = true)
    (limits : ∀ verify converter, converterFor elements hint verify = .ok converter →
      WithinLimits batchSize converter elements)
    (verified unverified : (Except Failure Table × Disk) × Engine)
    (first : runWith Engine.call (fromElements batchSize elements hint true) disk engine = verified)
    (second : runWith Engine.call (fromElements batchSize elements hint false) disk engine =
      unverified) :
    (∀ table, verified.1.1 = .ok table ↔ unverified.1.1 = .ok table) ∧
      verified.1.2 = unverified.1.2 ∧ verified.2 = unverified.2 := by
  cases made : converterFor elements hint true with
  | error cause =>
    have failed := runWith_fromElements batchSize elements hint true disk engine
    have other := runWith_fromElements batchSize elements hint false disk engine
    rw [made, first] at failed
    cases plain : converterFor elements hint false with
    | ok converter =>
      obtain ⟨verifies, impossible⟩ := converterFor_verify elements hint false true converter plain
      rw [made] at impossible
      cases impossible
    | error reason =>
      rw [plain, second] at other
      subst failed other
      simp
  | ok converter =>
    obtain ⟨verifies, plain⟩ := converterFor_verify elements hint true false converter made
    have one := fromElements_cases batchSize elements hint true converter disk engine available
      made (limits true converter made)
    have two := fromElements_cases batchSize elements hint false { converter with verifies } disk
      engine available plain (limits false _ plain)
    rw [first] at one
    rw [second] at two
    rcases one with ⟨rows, accepted, onClock, _, stored⟩ | ⟨refused, failure, failed⟩
    · rcases two with ⟨others, acceptedToo, _, _, storedToo⟩ | ⟨refusedToo, _⟩
      · have same : rows = others := Converter.accepts_unique accepted acceptedToo
        subst same stored storedToo
        exact ⟨fun table => Iff.rfl, rfl, rfl⟩
      · exact absurd ⟨rows, accepted, onClock⟩ refusedToo
    · rcases two with ⟨others, acceptedToo, onClockToo, _⟩ | ⟨_, reason, failedToo⟩
      · exact absurd ⟨others, acceptedToo, onClockToo⟩ refused
      · subst failed failedToo
        simp

/-- The outcome of loading some elements, with the disk and the engine after it. -/
def loaded (batchSize : Nat) (elements : List Record) (hint : Option Hint) (disk : Disk)
    (engine : Engine) (verify : Bool) : (Except Failure Table × Disk) × Engine :=
  runWith Engine.call (fromElements batchSize elements hint verify) disk engine

/-- A collection loads exactly when a converter is made for it that accepts all of
its elements verified and no time in their rows is off the clock.  The table has the schema
of the converter and holds the converted rows from then on, whatever the engine is asked
later.  Not verifying changes nothing but the failure that is reported. -/
theorem elements_load_iff_accepted (batchSize : Nat) (elements : List Record)
    (hint : Option Hint) (disk : Disk) (engine : Engine)
    (available : disk.scratch.available = true)
    (limits : ∀ verify converter, converterFor elements hint verify = .ok converter →
      WithinLimits batchSize converter elements) :
    (∀ verify,
        ((∃ table, (loaded batchSize elements hint disk engine verify).1.1 = .ok table) ↔
          ∃ converter rows, converterFor elements hint verify = .ok converter ∧
            converter.Accepts elements rows ∧ Batch.rowsOffClock? rows = none) ∧
        ∀ table converter,
          (loaded batchSize elements hint disk engine verify).1.1 = .ok table →
          converterFor elements hint verify = .ok converter →
            table.schema = converter.schema ∧
              ∃ rows, converter.Accepts elements rows ∧ Batch.rowsOffClock? rows = none ∧
                converter.convertAll elements = rows.map .ok ∧
                ∀ later someDisk, (runWith Engine.call (collect table.id) someDisk
                  ((loaded batchSize elements hint disk engine verify).2.after later)).1.1 =
                    .ok rows) ∧
      (∀ table, (loaded batchSize elements hint disk engine true).1.1 = .ok table ↔
        (loaded batchSize elements hint disk engine false).1.1 = .ok table) ∧
      (loaded batchSize elements hint disk engine true).1.2 =
        (loaded batchSize elements hint disk engine false).1.2 ∧
      (loaded batchSize elements hint disk engine true).2 =
        (loaded batchSize elements hint disk engine false).2 := by
  refine ⟨fun verify => ?_, ?_⟩
  · exact fromElements_stores batchSize elements hint verify disk engine available (limits verify) _
      rfl
  · exact fromElements_verify batchSize elements hint disk engine available limits _ _ rfl rfl

def pairSchema : Schema where
  fields := [("id", .atom .bigInt false), ("name", .atom .string true)]
  wellFormed := rfl

def pairElements : List Record :=
  [.named .mapping [("id", .int 7), ("name", .string "a")], .named .mapping [("id", .int 8)]]

def pairRows : List Row :=
  [[.long 7, .string "a"], [.long 8, .null]]

def freshDisk : Disk where
  folder := .empty
  scratch := .empty

theorem pair_elements_load :
    ∃ table,
      (loaded 1 pairElements (some (.schema pairSchema)) freshDisk .fresh false).1.1 = .ok table ∧
        table.schema = pairSchema ∧
          ∀ later someDisk, (runWith Engine.call (collect table.id) someDisk
            ((loaded 1 pairElements (some (.schema pairSchema)) freshDisk .fresh false).2.after
              later)).1.1 = .ok pairRows := by
  have accepted : (Converter.ofSchema pairSchema false).Accepts pairElements pairRows := rfl
  have plain : ∀ verifies, { Converter.ofSchema pairSchema verifies with
      verifies := false }.convertAll pairElements = pairRows.map .ok := fun _ => rfl
  have frames : Batch.frameGroups 1 pairRows = [[[.long 7, .string "a"]], [[.long 8, .null]]] := by
    rfl
  have limits : ∀ verify converter,
      converterFor pairElements (some (.schema pairSchema)) verify = .ok converter →
        WithinLimits 1 converter pairElements := by
    intro verify converter made
    cases made
    have levels : pairSchema.openLevels ≤ DataType.maxOpen := by decide
    have header : pairSchema.header.length ≤ Batch.maxFrameBytes := by decide +kernel
    refine ⟨levels, header, fun rows all => ?_⟩
    have same : rows = pairRows := by
      have equal := all.symm.trans (plain verify)
      exact List.map_injective_iff.mpr (fun a b same => Except.ok.inj same) equal
    rw [same, frames]
    simp only [List.mem_cons, List.not_mem_nil, or_false, forall_eq_or_imp, forall_eq]
    exact ⟨⟨by decide, by decide +kernel⟩, ⟨by decide, by decide +kernel⟩⟩
  obtain ⟨each, _⟩ := elements_load_iff_accepted 1 pairElements (some (.schema pairSchema))
    freshDisk .fresh rfl limits
  obtain ⟨loads, stays⟩ := each false
  have made : converterFor pairElements (some (.schema pairSchema)) false =
      .ok (.ofSchema pairSchema false) := rfl
  obtain ⟨table, success⟩ := loads.mpr ⟨_, pairRows, made, accepted, rfl⟩
  obtain ⟨schema, rows, found, _, _, collected⟩ := stays table _ success made
  rw [Converter.accepts_unique found accepted] at collected
  exact ⟨table, success, schema, collected⟩

def stretchedElements : List Record :=
  [.positional .tuple [.time Batch.stretchedTime]]

/-- An element with a time off the clock is accepted and verified, but does not load. -/
theorem stretched_element_refused :
    converterFor stretchedElements (some (.schema Batch.clockSchema)) true =
        .ok (.ofSchema Batch.clockSchema true) ∧
      (Converter.ofSchema Batch.clockSchema true).Accepts stretchedElements
        [[.time Batch.stretchedTime]] ∧
      WithinLimits 1000 (.ofSchema Batch.clockSchema true) stretchedElements ∧
      (loaded 1000 stretchedElements (some (.schema Batch.clockSchema)) freshDisk .fresh
        true).1.1 = .error (.batch (.corrupt (.timeOutOfRange 86164))) := by
  have made : converterFor stretchedElements (some (.schema Batch.clockSchema)) true =
      .ok (.ofSchema Batch.clockSchema true) := rfl
  have plain : { Converter.ofSchema Batch.clockSchema true with
      verifies := false }.convertAll stretchedElements =
        [[.time Batch.stretchedTime]].map .ok := rfl
  have all : (Converter.ofSchema Batch.clockSchema true).convertAll stretchedElements =
      [[.time Batch.stretchedTime]].map .ok := rfl
  have limits : WithinLimits 1000 (.ofSchema Batch.clockSchema true) stretchedElements := by
    refine ⟨by decide, by decide +kernel, fun rows converted => ?_⟩
    have same : rows = [[.time Batch.stretchedTime]] :=
      List.map_injective_iff.mpr (fun _ _ equal => Except.ok.inj equal) (converted.symm.trans plain)
    have groups : Batch.frameGroups 1000 [[.time Batch.stretchedTime]] =
        [[[.time Batch.stretchedTime]]] := rfl
    rw [same, groups]
    simp only [List.mem_singleton, forall_eq]
    exact ⟨by decide, by decide +kernel⟩
  have run := runWith_fromElements 1000 stretchedElements (some (.schema Batch.clockSchema)) true
    freshDisk .fresh
  rw [made] at run
  have load := runWith_loadElements_rows [[.time Batch.stretchedTime]] freshDisk .fresh rfl rfl
    limits all
  exact ⟨made, rfl, limits, congrArg (fun outcome => outcome.1.1) (run.trans load)⟩

end Session

end TableLoad

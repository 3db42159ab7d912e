import TableLoad.Proofs.Session.Loading

/-!
# Loads that fail

A load does most of its work by itself and asks the engine a single question at the
end.  So whatever fails before leaves the engine unasked, the scratch directory is
gone however the engine answers, and an engine that refuses the batch is as it was.
-/

set_option autoImplicit false

namespace TableLoad

/-! ## Disks -/

namespace Disk

/-- What a load may leave of a disk: the files, and the scratch directories of other
loads. -/
structure Restored (before after : Disk) : Prop where
  folder : after.folder = before.folder
  noneLeft : ∀ held ∈ after.scratch.directories, held ∈ before.scratch.directories
  othersKept : ∀ held ∈ before.scratch.directories, held.1 ≠ before.scratch.made →
    held ∈ after.scratch.directories

theorem restored_self (disk : Disk) : disk.Restored disk :=
  ⟨rfl, fun _ member => member, fun _ member _ => member⟩

theorem restored_swept (disk : Disk) : disk.Restored disk.swept := by
  have left : disk.swept.scratch.directories =
      disk.scratch.directories.filter fun held => held.1 ≠ disk.scratch.made := by
    cases available : disk.scratch.available <;>
      simp [swept, Scratch.make, Scratch.remove, available]
  refine ⟨rfl, ?_, ?_⟩
  · intro held member
    rw [left] at member
    exact List.mem_of_mem_filter member
  · intro held member other
    rw [left]
    exact List.mem_filter.mpr ⟨member, decide_eq_true other⟩

end Disk

/-! ## The dialogue of a load -/

namespace Session

theorem dialogue_unavailable (converter : Converter) (batchSize : Nat) (elements : List Record)
    (disk : Disk) (unavailable : disk.scratch.available = false) :
    (loadElements converter batchSize elements).dialogue disk =
      .done (.error (.batch .noScratchDirectory), disk) := by
  have none : disk.scratch.make = (.error .noScratchDirectory, disk.scratch) := by
    simp [Scratch.make, unavailable]
  unfold loadElements withScratch
  simp only [dialogue_bind, dialogue_onScratch, Dialogue.bind, none, dialogue_ofExcept,
    Except.mapError]

end Session

/-! ## Loads -/

/-- The ways to create a table of what a client has. -/
inductive Loading
  | elements (records : List Record) (hint : Option Hint) (verify : Bool)
  | batches (frame : Frame) (hint : Option Frame.Hint)

namespace Loading

open Session

def session (load : Loading) (batchSize : Nat) : Session Failure Table :=
  match load with
  | .elements records hint verify => fromElements batchSize records hint verify
  | .batches frame hint => fromFrame batchSize frame hint

def input : Loading → Except Failure (Converter × List Record)
  | .elements records hint verify => do
    let converter ← (converterFor records hint verify).mapError .inference
    return (converter, records)
  | .batches frame hint => do
    let schema ← (frame.schema hint).mapError .frame
    let records ← frame.records.mapError .frame
    return (.ofSchema schema true, records)

/-- The schema and the bytes of the batch of a load, or what fails while it infers,
maps, verifies, converts or encodes. -/
def prepared (load : Loading) (batchSize : Nat) : Except Failure (Schema × List UInt8) := do
  let (converter, records) ← load.input
  let (outcome, bytes) := batchOfElements converter batchSize records
  let _ ← outcome
  return (converter.schema, bytes)

theorem dialogue_session (load : Loading) (batchSize : Nat) (disk : Disk) :
    (load.session batchSize).dialogue disk =
      match load.input with
      | .error failure => .done (.error failure, disk)
      | .ok (converter, records) =>
        (loadElements converter batchSize records).dialogue disk := by
  cases load with
  | elements records hint verify =>
    simp only [session, fromElements, dialogue_bind, dialogue_ofExcept, input]
    cases converterFor records hint verify <;> rfl
  | batches frame hint =>
    simp only [session, fromFrame, dialogue_bind, dialogue_ofExcept, input]
    cases frame.schema hint with
    | error failure => rfl
    | ok schema =>
      cases frame.records <;> rfl

theorem dialogue_of_failed (load : Loading) (batchSize : Nat) (disk : Disk) (failure : Failure) :
    load.prepared batchSize = .error failure →
      ∃ reported after, (load.session batchSize).dialogue disk = .done (.error reported, after) ∧
        disk.Restored after ∧ (disk.scratch.available = true → reported = failure) := by
  intro failed
  rw [dialogue_session]
  unfold prepared at failed
  cases found : load.input with
  | error early =>
    rw [found] at failed
    cases failed
    exact ⟨failure, disk, rfl, disk.restored_self, fun _ => rfl⟩
  | ok input =>
    obtain ⟨converter, records⟩ := input
    rw [found] at failed
    -- Without a directory the load ends before it comes to the failure.
    cases available : disk.scratch.available with
    | false =>
      exact ⟨_, disk, dialogue_unavailable converter batchSize records disk available,
        disk.restored_self, fun impossible => Bool.noConfusion impossible⟩
    | true =>
      have whole := dialogue_loadElements converter batchSize records disk available
      cases encoded : batchOfElements converter batchSize records with
      | mk outcome bytes =>
        simp only [encoded, bind, Except.bind] at failed whole
        cases outcome with
        | ok count => cases failed
        | error late =>
          cases failed
          exact ⟨failure, disk.swept, whole, disk.restored_swept, fun _ => rfl⟩

theorem dialogue_of_prepared (load : Loading) (batchSize : Nat) (disk : Disk) (schema : Schema)
    (bytes : List UInt8) :
    load.prepared batchSize = .ok (schema, bytes) →
      (load.session batchSize).dialogue disk =
        if disk.scratch.available then
          .ask (readRequest schema bytes) fun answer =>
            .done (answer >>= understood (readRequest schema bytes) tableIn, disk.swept)
        else .done (.error (.batch .noScratchDirectory), disk) := by
  intro made
  rw [dialogue_session]
  unfold prepared at made
  cases found : load.input with
  | error early =>
    rw [found] at made
    cases made
  | ok input =>
    obtain ⟨converter, records⟩ := input
    rw [found] at made
    cases available : disk.scratch.available with
    | false => exact dialogue_unavailable converter batchSize records disk available
    | true =>
      have whole := dialogue_loadElements converter batchSize records disk available
      cases encoded : batchOfElements converter batchSize records with
      | mk outcome written =>
        simp only [encoded, bind, Except.bind] at made whole
        cases outcome with
        | error late => cases made
        | ok count =>
          cases made
          exact whole

theorem call_readRequest (engine : Engine) (schema : Schema) (bytes : List UInt8)
    (failure : Failure) :
    (engine.call (readRequest schema bytes)).1 >>= understood (readRequest schema bytes) tableIn =
      .error failure →
        (engine.call (readRequest schema bytes)).2 = engine := by
  intro failed
  simp only [readRequest, Engine.call, Engine.readBatchFile] at failed ⊢
  cases read : Batch.deserialize bytes schema with
  | error cause => rfl
  | ok rows =>
    rw [read] at failed
    cases failed

/-- A load that fails leaves nothing behind.  If it fails before it has its batch,
nothing is asked; else the engine is asked to read the batch and nothing else.
However the engine answers, no scratch directory is left that was not there before.
An engine of tables that has not given the table has not changed. -/
theorem failed_load_leaves_nothing (load : Loading) (batchSize : Nat) (disk : Disk) :
    (∀ {σ : Type} (answer : σ → Request → Answer × σ) (state : σ) (failure : Failure),
      load.prepared batchSize = .error failure →
        sent answer (load.session batchSize) disk state = [] ∧
        ∃ reported after,
          runWith answer (load.session batchSize) disk state = ((.error reported, after), state) ∧
            (disk.scratch.available = true → reported = failure)) ∧
    (∀ {σ : Type} (answer : σ → Request → Answer × σ) (state : σ) (schema : Schema)
      (bytes : List UInt8),
      load.prepared batchSize = .ok (schema, bytes) →
        sent answer (load.session batchSize) disk state =
          if disk.scratch.available then [readRequest schema bytes] else []) ∧
    (∀ {σ : Type} (answer : σ → Request → Answer × σ) (state : σ),
      disk.Restored (runWith answer (load.session batchSize) disk state).1.2) ∧
    (∀ (engine : Engine) (failure : Failure),
      (runWith Engine.call (load.session batchSize) disk engine).1.1 = .error failure →
        (runWith Engine.call (load.session batchSize) disk engine).2 = engine) := by
  refine ⟨?_, ?_, ?_, ?_⟩
  · intro σ answer state failure failed
    obtain ⟨reported, after, whole, _, same⟩ :=
      load.dialogue_of_failed batchSize disk failure failed
    refine ⟨?_, reported, after, ?_, same⟩
    · rw [sent, whole]
      rfl
    · rw [runWith_eq, whole]
      rfl
  · intro σ answer state schema bytes made
    have whole := load.dialogue_of_prepared batchSize disk schema bytes made
    rw [sent, whole]
    cases disk.scratch.available <;> rfl
  · intro σ answer state
    rw [runWith_eq]
    cases made : load.prepared batchSize with
    | error failure =>
      obtain ⟨reported, after, whole, restored, _⟩ :=
        load.dialogue_of_failed batchSize disk failure made
      rw [whole]
      exact restored
    | ok batch =>
      rw [load.dialogue_of_prepared batchSize disk batch.1 batch.2 made]
      cases disk.scratch.available with
      | false => exact disk.restored_self
      | true => exact disk.restored_swept
  · intro engine failure
    rw [runWith_eq]
    intro failed
    cases made : load.prepared batchSize with
    | error early =>
      obtain ⟨reported, after, whole, _, _⟩ := load.dialogue_of_failed batchSize disk early made
      rw [whole]
      rfl
    | ok batch =>
      have whole := load.dialogue_of_prepared batchSize disk batch.1 batch.2 made
      cases available : disk.scratch.available with
      | false =>
        rw [available] at whole
        rw [whole]
        rfl
      | true =>
        rw [available] at whole
        rw [whole] at failed ⊢
        exact call_readRequest engine batch.1 batch.2 failure failed

def partialElements : Loading :=
  .elements [.named .mapping [("id", .int 7)], .named .mapping [("name", .string "a")]]
    (some (.schema pairSchema)) true

theorem partial_elements_leave_nothing :
    sent Engine.call (partialElements.session 1) freshDisk .fresh = [] ∧
      ∃ failure after,
        runWith Engine.call (partialElements.session 1) freshDisk .fresh =
          ((.error failure, after), .fresh) ∧
        after.scratch.directories = [] := by
  obtain ⟨unasked, _, restored, _⟩ := partialElements.failed_load_leaves_nothing 1 freshDisk
  have unprepared : (partialElements.prepared 1).toOption = none := by decide +kernel
  cases made : partialElements.prepared 1 with
  | ok batch =>
    rw [made] at unprepared
    cases unprepared
  | error failure =>
    obtain ⟨nothing, reported, after, whole, _⟩ := unasked Engine.call .fresh failure made
    have left := (restored Engine.call .fresh).noneLeft
    rw [whole] at left
    exact ⟨nothing, reported, after, whole, List.eq_nil_iff_forall_not_mem.mpr fun held member =>
      List.not_mem_nil (left held member)⟩

end Loading

end TableLoad

import TableLoad.Proofs.Batch.Limits
import TableLoad.Proofs.Conversion.Numbers
import TableLoad.Proofs.Session.FailedLoads

/-!
# What the outcome of a load tells

A load that succeeds kept within all limits, and has stored the rows that its elements
convert to.  One that is refused for an element names the first that is not accepted.
-/

set_option autoImplicit false

namespace TableLoad.Session

section Outcomes

variable {batchSize : Nat} {converter : Converter} {elements : List Record} {disk after : Disk}
  {engine next : Engine} {table : Table}

/-! ## Loads that succeed -/

/-- All that can come of a load, with what was written and read when it succeeds.  The files
are left alone, and the engine as well if the load fails. -/
theorem loadElements_cases {outcome : Except Failure Table}
    (run : runWith Engine.call (loadElements converter batchSize elements) disk engine =
      ((outcome, after), next)) :
    after.folder = disk.folder ∧
      ((∃ failure, outcome = .error failure ∧ next = engine ∧
          ((∃ reason, failure = .batch reason) ∨
            (batchOfElements converter batchSize elements).1 = .error failure)) ∨
        ∃ count bytes found, disk.scratch.available = true ∧
          batchOfElements converter batchSize elements = (.ok count, bytes) ∧
          Batch.deserialize bytes converter.schema = .ok found ∧
          outcome = .ok (engine.store converter.schema found).1 ∧
          next = (engine.store converter.schema found).2) := by
  cases available : disk.scratch.available with
  | false =>
    rw [runWith_eq, dialogue_unavailable converter batchSize elements disk available] at run
    cases run
    exact ⟨rfl, .inl ⟨_, rfl, rfl, .inl ⟨_, rfl⟩⟩⟩
  | true =>
    rw [runWith_loadElements converter batchSize elements disk engine available] at run
    cases written : batchOfElements converter batchSize elements with
    | mk result bytes =>
      rw [written] at run
      cases result with
      | error failure =>
        cases run
        exact ⟨rfl, .inl ⟨failure, rfl, rfl, .inr rfl⟩⟩
      | ok count =>
        simp only at run
        cases read : Batch.deserialize bytes converter.schema with
        | error cause =>
          rw [read] at run
          cases run
          exact ⟨rfl, .inl ⟨_, rfl, rfl, .inl ⟨_, rfl⟩⟩⟩
        | ok found =>
          rw [read] at run
          cases run
          exact ⟨rfl, .inr ⟨count, bytes, found, rfl, rfl, read, rfl, rfl⟩⟩

theorem batch_of_loaded
    (run : runWith Engine.call (loadElements converter batchSize elements) disk engine =
      ((.ok table, after), next)) :
    ∃ count bytes found, disk.scratch.available = true ∧
      batchOfElements converter batchSize elements = (.ok count, bytes) ∧
      Batch.deserialize bytes converter.schema = .ok found ∧
      (table, next) = engine.store converter.schema found := by
  obtain ⟨_, ⟨_, impossible, _⟩ | ⟨count, bytes, found, available, written, read, stored, rfl⟩⟩ :=
    loadElements_cases run
  · cases impossible
  · cases stored
    exact ⟨count, bytes, found, available, written, read, rfl⟩

theorem limits_of_loaded (named : converter.lookupNames.length = converter.schema.fields.length)
    (few : converter.schema.fields = [] → min batchSize elements.length < 2 ^ 32)
    (run : runWith Engine.call (loadElements converter batchSize elements) disk engine =
      ((.ok table, after), next)) :
    ∃ rows : List Row, converter.convertAll elements = rows.map .ok ∧
      WithinLimits batchSize converter elements := by
  obtain ⟨count, bytes, found, _, written, read, _⟩ := batch_of_loaded run
  rcases all_ok_or_error (converter.convertAll elements) with ⟨rows, all⟩ | ⟨error, member⟩
  · rw [batchOfElements_of_converted all] at written
    have writable := Batch.writable_of_serialize _ _ _ _ _ _ written
    rw [Batch.serialize_written _ _ _ _ writable.header writable.widths writable.short
      writable.frames] at written
    cases written
    obtain ⟨header, levels⟩ := Batch.header_of_deserialize _ _ found writable.header read
    have size : rows.length = elements.length :=
      ((converter.convertAll_eq_ok elements rows).mp all).1
    have fitting := Batch.fitting_of_writable converter.schema batchSize rows writable
      fun columns => by
        have bound := few columns
        omega
    refine ⟨rows, all, levels, header, fun others same => ?_⟩
    have unverified := Converter.unverified_of_convertAll named all
    have equal : others = rows :=
      List.map_injective_iff.mpr (fun a b same => Except.ok.inj same) (same.symm.trans unverified)
    rw [equal]
    exact fitting
  · have wrapped : .error (.validation error) ∈
        (converter.convertAll elements).map (Except.mapError Failure.validation) :=
      List.mem_map.mpr ⟨.error error, member, rfl⟩
    obtain ⟨first, failed⟩ :=
      Batch.serialize_of_error Failure.batch converter.schema batchSize _ _ wrapped
    rw [batchOfElements] at written
    rw [written] at failed
    cases failed

theorem stored_of_loaded (named : converter.lookupNames.length = converter.schema.fields.length)
    (few : converter.schema.fields = [] → min batchSize elements.length < 2 ^ 32)
    (run : runWith Engine.call (loadElements converter batchSize elements) disk engine =
      ((.ok table, after), next)) :
    ∃ rows : List Row, converter.convertAll elements = rows.map .ok ∧
      (table, next) = engine.store converter.schema rows := by
  obtain ⟨rows, all, limits⟩ := limits_of_loaded named few run
  obtain ⟨_, _, _, available, _⟩ := batch_of_loaded run
  have whole := runWith_loadElements_rows rows disk engine available named limits all
  rw [run] at whole
  refine ⟨rows, all, ?_⟩
  cases misfit : Batch.firstMisfit? converter.schema.fields 0 rows with
  | none =>
    rw [misfit] at whole
    cases whole
    rfl
  | some found =>
    rw [misfit] at whole
    cases whole

theorem collected_of_loaded
    (run : runWith Engine.call (loadElements converter batchSize elements) disk engine =
      ((.ok table, after), next)) :
    table.schema = converter.schema ∧
      ∃ rows, ∀ later someDisk,
        (runWith Engine.call (collect table.id) someDisk (next.after later)).1.1 = .ok rows := by
  obtain ⟨_, _, found, _, _, _, stored⟩ := batch_of_loaded run
  cases stored
  refine ⟨rfl, found, fun later someDisk => ?_⟩
  exact runWith_collect _ someDisk _ found (engine.rows_after_store converter.schema found later)

/-! ## Loads that fail -/

/-- A load that fails otherwise than with its batch has an element that is refused, the
first of its kind. -/
theorem refused_of_batchOfElements (failure : Failure) (own : ∀ error, Failure.batch error ≠ failure)
    (failed : (batchOfElements converter batchSize elements).1 = .error failure) :
    ∃ place element error, elements[place]? = some element ∧
      converter.convert place element = .error error ∧ failure = .validation error ∧
      ∀ earlier < place, ∀ other, elements[earlier]? = some other →
        ∃ row, converter.convert earlier other = .ok row := by
  obtain ⟨place, found, before⟩ := Batch.serialize_stopped Failure.batch converter.schema batchSize
    _ _ own failed
  simp only [Converter.convertAll, List.getElem?_map, List.getElem?_mapIdx, Option.map_eq_some_iff]
    at found before
  obtain ⟨_, ⟨element, elementAt, rfl⟩, wrapped⟩ := found
  cases outcome : converter.convert place element with
  | ok row =>
    rw [outcome] at wrapped
    cases wrapped
  | error error =>
    rw [outcome] at wrapped
    cases wrapped
    refine ⟨place, element, error, elementAt, outcome, rfl, ?_⟩
    intro earlier less other otherAt
    obtain ⟨row, _, ⟨same, sameAt, rfl⟩, fine⟩ := before earlier less
    rw [otherAt] at sameAt
    cases sameAt
    cases converted : converter.convert earlier other with
    | ok result => exact ⟨result, rfl⟩
    | error reason =>
      rw [converted] at fine
      cases fine

theorem failed_of_loaded (failure : Failure) (own : ∀ error, Failure.batch error ≠ failure)
    (run : runWith Engine.call (loadElements converter batchSize elements) disk engine =
      ((.error failure, after), next)) :
    (batchOfElements converter batchSize elements).1 = .error failure := by
  obtain ⟨_, ⟨_, same, _, ⟨reason, batch⟩ | failed⟩ | ⟨_, _, _, _, _, _, impossible, _⟩⟩ :=
    loadElements_cases run
  · cases same
    exact absurd batch.symm (own reason)
  · cases same
    exact failed
  · cases impossible

theorem refused_of_loaded (error : ValidationError)
    (run : runWith Engine.call (loadElements converter batchSize elements) disk engine =
      ((.error (.validation error), after), next)) :
    ∃ element, elements[error.record]? = some element ∧
      converter.convert error.record element = .error error ∧
      ∀ earlier < error.record, ∀ other, elements[earlier]? = some other →
        ∃ row, converter.convert earlier other = .ok row := by
  have own : ∀ reason, Failure.batch reason ≠ .validation error := fun _ => Failure.noConfusion
  obtain ⟨place, element, cause, elementAt, outcome, same, before⟩ :=
    refused_of_batchOfElements _ own (failed_of_loaded _ own run)
  cases same
  have named := converter.numbered_convert place element
  rw [outcome] at named
  cases (named : error.record = place)
  exact ⟨element, elementAt, outcome, before⟩

end Outcomes

end TableLoad.Session

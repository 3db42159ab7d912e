import TableLoad.Proofs.Conversion.Plain
import TableLoad.Proofs.Inference.Soundness

/-!
# Conversion of collections

When all elements of a collection become rows, and what is then known of the
rows.  The converters made for one collection differ only in whether they
verify.
-/

set_option autoImplicit false

namespace TableLoad

section Outcomes

variable {ε α : Type}

theorem all_ok_or_error (outcomes : List (Except ε α)) :
    (∃ results : List α, outcomes = results.map .ok) ∨ ∃ error, .error error ∈ outcomes := by
  induction outcomes with
  | nil => exact .inl ⟨[], rfl⟩
  | cons outcome rest ih =>
    cases outcome with
    | error error => exact .inr ⟨error, List.mem_cons_self⟩
    | ok result =>
      rcases ih with ⟨results, all⟩ | ⟨error, member⟩
      · exact .inl ⟨result :: results, by simp [all]⟩
      · exact .inr ⟨error, List.mem_cons_of_mem _ member⟩

end Outcomes

namespace Converter

theorem convertAll_eq_ok (converter : Converter) (elements : List Record) (rows : List Row) :
    converter.convertAll elements = rows.map .ok ↔
      rows.length = elements.length ∧
        ∀ i element row, elements[i]? = some element → rows[i]? = some row →
          converter.convert i element = .ok row := by
  constructor
  · intro all
    have count : rows.length = elements.length := by
      have lengths := congrArg List.length all
      simpa [convertAll] using lengths.symm
    refine ⟨count, fun i element row elementAt rowAt => ?_⟩
    have place := congrArg (·[i]?) all
    simpa [convertAll, List.getElem?_mapIdx, elementAt, rowAt] using place
  · rintro ⟨count, each⟩
    apply List.ext_getElem?
    intro i
    simp only [convertAll, List.getElem?_mapIdx, List.getElem?_map]
    by_cases inside : i < elements.length
    · have elementAt : elements[i]? = some elements[i] := List.getElem?_eq_getElem inside
      have bound : i < rows.length := by omega
      have rowAt : rows[i]? = some rows[i] := List.getElem?_eq_getElem bound
      rw [elementAt, rowAt, Option.map_some, Option.map_some, each i _ _ elementAt rowAt]
    · rw [List.getElem?_eq_none (by omega), List.getElem?_eq_none (by omega)]
      rfl

/-- Verified, each element becomes the row at its place. -/
def Accepts (converter : Converter) (elements : List Record) (rows : List Row) : Prop :=
  { converter with verifies := true }.convertAll elements = rows.map .ok

theorem accepts_iff (converter : Converter) (elements : List Record)
    (rows : List Row) (named : converter.lookupNames.length = converter.schema.fields.length) :
    converter.Accepts elements rows ↔
      { converter with verifies := false }.convertAll elements = rows.map .ok ∧
        ∀ row ∈ rows, RowConforms converter.schema.fields row := by
  rw [Accepts, convertAll_eq_ok, convertAll_eq_ok]
  have single := verified_convert_iff converter named
  constructor
  · rintro ⟨count, each⟩
    refine ⟨⟨count, fun i element row elementAt rowAt => ?_⟩, fun row member => ?_⟩
    · exact ((single i element row).mp (each i element row elementAt rowAt)).1
    · obtain ⟨i, rowAt⟩ := List.mem_iff_getElem?.mp member
      have inside : i < elements.length := by
        have bound := (List.getElem?_eq_some_iff.mp rowAt).1
        omega
      exact ((single i elements[i] row).mp
        (each i elements[i] row (List.getElem?_eq_getElem inside) rowAt)).2
  · rintro ⟨⟨count, each⟩, conform⟩
    refine ⟨count, fun i element row elementAt rowAt => ?_⟩
    exact (single i element row).mpr
      ⟨each i element row elementAt rowAt, conform row (List.mem_of_getElem? rowAt)⟩

theorem convertAll_of_accepts {converter : Converter} {elements : List Record} {rows : List Row}
    (named : converter.lookupNames.length = converter.schema.fields.length)
    (accepted : converter.Accepts elements rows) :
    converter.convertAll elements = rows.map .ok := by
  cases verifies : converter.verifies with
  | false =>
    have same : { converter with verifies := false } = converter := by rw [← verifies]
    rw [← same]
    exact ((converter.accepts_iff elements rows named).mp accepted).1
  | true =>
    have same : { converter with verifies := true } = converter := by rw [← verifies]
    rw [← same]
    exact accepted

theorem unverified_of_convertAll {converter : Converter} {elements : List Record}
    {rows : List Row} (named : converter.lookupNames.length = converter.schema.fields.length)
    (all : converter.convertAll elements = rows.map .ok) :
    { converter with verifies := false }.convertAll elements = rows.map .ok := by
  cases verifies : converter.verifies with
  | false =>
    have same : { converter with verifies := false } = converter := by rw [← verifies]
    rw [same]
    exact all
  | true =>
    have same : { converter with verifies := true } = converter := by rw [← verifies]
    have accepted : converter.Accepts elements rows := by rw [Accepts, same, all]
    exact ((converter.accepts_iff elements rows named).mp accepted).1

theorem accepts_unique {converter : Converter} {elements : List Record} {rows others : List Row}
    (one : converter.Accepts elements rows) (two : converter.Accepts elements others) :
    rows = others := by
  have equal := one.symm.trans two
  exact List.map_injective_iff.mpr (fun a b same => Except.ok.inj same) equal

theorem plain_of_convertAll (converter : Converter) (elements : List Record) (rows : List Row)
    (named : converter.lookupNames.length = converter.schema.fields.length)
    (all : converter.convertAll elements = rows.map .ok) :
    ∀ row ∈ rows, row.length = converter.schema.size ∧ row.unnamed = row ∧
      Value.itemsDepth row ≤ DataType.fieldsDepth converter.schema.fields := by
  intro row member
  obtain ⟨count, each⟩ := (converter.convertAll_eq_ok elements rows).mp all
  obtain ⟨i, rowAt⟩ := List.mem_iff_getElem?.mp member
  have inside : i < elements.length := by
    have bound := (List.getElem?_eq_some_iff.mp rowAt).1
    omega
  have converted := each i elements[i] row (List.getElem?_eq_getElem inside) rowAt
  exact plain_row_of_converted converter.schema.fields converter.lookupNames i elements[i] row
    named ((convert_ok_iff converter i elements[i] row).mp converted).2.2

end Converter

/-! ## Converters of one collection -/

theorem converterFor_verify (elements : List Record) (hint : Option Hint) (verify other : Bool)
    (converter : Converter) (made : converterFor elements hint verify = .ok converter) :
    ∃ verifies, converterFor elements hint other = .ok { converter with verifies } := by
  simp only [converterFor] at made ⊢
  rw [bind_eq_ok_iff] at made
  obtain ⟨schema, inferred, made⟩ := made
  rw [inferred]
  cases hint with
  | none =>
    cases made
    exact ⟨false, rfl⟩
  | some hint =>
    cases hint with
    | schema given =>
      cases made
      exact ⟨other, rfl⟩
    | scalar type =>
      cases made
      exact ⟨other, rfl⟩
    | names names =>
      refine ⟨converter.verifies, ?_⟩
      exact made

theorem lookupNames_of_converterFor (elements : List Record) (hint : Option Hint) (verify : Bool)
    (converter : Converter) (made : converterFor elements hint verify = .ok converter) :
    converter.lookupNames.length = converter.schema.fields.length := by
  have own : ∀ schema : Schema, schema.names.length = schema.fields.length := by
    simp [Schema.names]
  cases hint with
  | none =>
    obtain ⟨_, _, names⟩ := converterFor_names none elements verify converter made
    rw [names]
    exact own _
  | some hint =>
    cases hint with
    | names names =>
      cases elements with
      | nil =>
        obtain ⟨_, _, lookups⟩ := converterFor_names (some names) [] verify converter made
        rw [lookups]
        exact own _
      | cons first rest =>
        exact (recordFits_of_converterFor (some names) (first :: rest) verify converter made first
          List.mem_cons_self).1
    | schema given =>
      cases made
      exact own given
    | scalar type =>
      simp only [converterFor] at made
      rw [bind_eq_ok_iff] at made
      obtain ⟨schema, _, made⟩ := made
      cases made
      exact own schema

end TableLoad

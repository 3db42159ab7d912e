import TableLoad.Proofs.DataType.Names

/-!
# Values fit the types inferred from them

The type inferred for a value admits it, provided that no row in the type has two
fields of one name.  The types joined on the way go on admitting what they
admitted before.
-/

set_option autoImplicit false

namespace TableLoad

open DataType

/-! ## Fields by position -/

theorem fieldsFit_iff (fields : List Field) (names : List String) (position : Nat) (r : Record) :
    FieldsFit fields names position r ↔
      ∀ i field name, fields[i]? = some field → names[i]? = some name →
        Fits field.2 (r.valueAt name (position + i)) := by
  induction fields generalizing names position with
  | nil => simp [FieldsFit]
  | cons head fields ih =>
    cases names with
    | nil => simp [FieldsFit]
    | cons name names =>
      simp only [FieldsFit, ih]
      constructor
      · rintro ⟨first, later⟩ i field other fieldAt nameAt
        cases i with
        | zero =>
          cases fieldAt
          cases nameAt
          exact first
        | succ i =>
          have shifted := later i field other fieldAt nameAt
          rwa [Nat.add_assoc, Nat.add_comm 1 i] at shifted
      · intro each
        refine ⟨each 0 head name rfl rfl, ?_⟩
        intro i field other fieldAt nameAt
        have shifted := each (i + 1) field other fieldAt nameAt
        rwa [Nat.add_assoc, Nat.add_comm 1 i]

theorem lookup_eq_first (entries : List (String × Value)) (name : String) :
    entries.lookup name = (entries.map Prod.snd)[(entries.map Prod.fst).idxOf name]? := by
  induction entries with
  | nil => rfl
  | cons entry rest ih =>
    obtain ⟨own, value⟩ := entry
    by_cases same : name = own
    · subst own
      simp
    · have different : (name == own) = false := beq_eq_false_iff_ne.mpr same
      rw [List.lookup_cons, different, List.map_cons, List.map_cons,
        List.idxOf_cons_ne _ (Ne.symm same), List.getElem?_cons_succ]
      exact ih

theorem lookup_of_distinct (entries : List (String × Value))
    (distinct : (entries.map Prod.fst).Nodup) (i : Nat) (name : String) (value : Value)
    (entryAt : entries[i]? = some (name, value)) : entries.lookup name = some value := by
  have nameAt : (entries.map Prod.fst)[i]? = some name := by simp [entryAt]
  obtain ⟨bound, rfl⟩ := List.getElem?_eq_some_iff.mp nameAt
  rw [lookup_eq_first, distinct.idxOf_getElem i bound, List.getElem?_map, entryAt]
  rfl

/-! ## Types of values -/

theorem joinAt_ok_iff (record : Nat) (path : String) (existing found joined : DataType) :
    joinAt record path existing found = .ok joined ↔ existing.join? found = some joined := by
  cases join : existing.join? found <;> simp [joinAt, join]

/-- Each field of a list was inferred from the value at its place. -/
def InferredFrom (fields : List Field) (items : List Value) : Prop :=
  List.Forall₂ (fun field item => field.2.NamesDistinct → Fits field.2 item) fields items

theorem decimal_fits_itself (d : Decimal) :
    Fits (.atom (.decimal (UInt8.ofNat d.precision) d.scale) false) (.decimal d) := by
  rw [fits_atom _ _ _ (by simp), coerce_decimal_iff]
  refine ⟨d, d.rescale_self, ?_⟩
  rw [UInt8.toNat_ofNat_of_lt' d.precision_lt]
  exact Nat.le_max_left _ _

theorem positional_fits (shape : Positional) (fields : List Field) (items : List Value)
    (inferred : InferredFrom fields items) (distinct : FieldsDistinct fields) :
    RecordFits fields (fields.map Prod.fst) (.positional shape items) := by
  rw [fieldsDistinct_iff] at distinct
  refine ⟨fun _ => inferred.length_eq.symm, ?_⟩
  rw [fieldsFit_iff]
  intro i field name fieldAt _
  have bound : i < fields.length := (List.getElem?_eq_some_iff.mp fieldAt).1
  have itemBound : i < items.length := inferred.length_eq ▸ bound
  have fit := inferred.get bound itemBound
  have here : fields.get ⟨i, bound⟩ = field := (List.getElem?_eq_some_iff.mp fieldAt).2
  rw [here] at fit
  have value : Record.valueAt (.positional shape items) name (0 + i) = items[i] := by
    simp [Record.valueAt, Record.lookup?, itemBound]
  rw [value]
  exact fit (distinct field (List.mem_of_getElem? fieldAt))

theorem named_fits (shape : Keyed) (fields : List Field) (entries : List (String × Value))
    (names : fields.map Prod.fst = entries.map Prod.fst)
    (inferred : InferredFrom fields (entries.map Prod.snd))
    (different : (fields.map Prod.fst).Nodup) (distinct : FieldsDistinct fields) :
    RecordFits fields (fields.map Prod.fst) (.named shape entries) := by
  rw [fieldsDistinct_iff] at distinct
  refine ⟨by simp [Record.isNamed], ?_⟩
  rw [fieldsFit_iff]
  intro i field name fieldAt nameAt
  have bound : i < fields.length := (List.getElem?_eq_some_iff.mp fieldAt).1
  have itemBound : i < (entries.map Prod.snd).length := inferred.length_eq ▸ bound
  have entryBound : i < entries.length := by simpa using itemBound
  have fit := inferred.get bound itemBound
  have here : fields.get ⟨i, bound⟩ = field := (List.getElem?_eq_some_iff.mp fieldAt).2
  rw [here] at fit
  have named : entries[i].1 = name := by
    rw [names] at nameAt
    simpa [entryBound] using nameAt
  have entryAt : entries[i]? = some (name, entries[i].2) := by
    rw [List.getElem?_eq_getElem entryBound, ← named]
  have value : Record.valueAt (.named shape entries) name (0 + i) = entries[i].2 := by
    simp only [Record.valueAt, Record.lookup?]
    rw [lookup_of_distinct entries (names ▸ different) i name _ entryAt]
    rfl
  rw [value]
  simpa using fit (distinct field (List.mem_of_getElem? fieldAt))

mutual

theorem fits_inferred (record : Nat) :
    (path : String) → (value : Value) → (type : DataType) →
      inferValue record path value = .ok type → type.NamesDistinct → Fits type value
  | path, .null, type, inferred, _ => by
    cases inferred
    rfl
  | path, .decimal d, type, inferred, _ => by
    cases inferred
    exact decimal_fits_itself d
  | path, .list items, type, inferred, distinct => by
    simp only [inferValue] at inferred
    rw [bind_eq_ok_iff] at inferred
    obtain ⟨element, joined, whole⟩ := inferred
    rw [pure_eq_ok_iff] at whole
    subst type
    simp only [NamesDistinct] at distinct
    have each :=
      (items_fit_inferred record (elementPath path) .unobserved items element joined).1 distinct
    simpa only [Fits] using each
  | path, .map entries, type, inferred, distinct => by
    simp only [inferValue] at inferred
    rw [bind_eq_ok_iff] at inferred
    obtain ⟨⟨key, held⟩, joined, whole⟩ := inferred
    rw [pure_eq_ok_iff] at whole
    subst type
    simp only [NamesDistinct] at distinct
    have each :=
      (pairs_fit_inferred record path .unobserved .unobserved entries key held joined).1
        distinct.1 distinct.2
    simpa only [Fits] using each
  | path, .record (.positional shape items), type, inferred, distinct => by
    simp only [inferValue] at inferred
    rw [bind_eq_ok_iff] at inferred
    obtain ⟨fields, members, whole⟩ := inferred
    rw [pure_eq_ok_iff] at whole
    subst type
    simp only [NamesDistinct] at distinct
    rw [fits_row]
    exact positional_fits shape fields items
      (members_inferred record path 0 items fields members) distinct.2
  | path, .record (.named shape entries), type, inferred, distinct => by
    simp only [inferValue] at inferred
    rw [bind_eq_ok_iff] at inferred
    obtain ⟨fields, members, whole⟩ := inferred
    rw [pure_eq_ok_iff] at whole
    subst type
    simp only [NamesDistinct] at distinct
    obtain ⟨names, each⟩ := entries_inferred record path entries fields members
    rw [fits_row]
    exact named_fits shape fields entries names each distinct.1 distinct.2
  | path, .bool _, type, inferred, _ | path, .int _, type, inferred, _
  | path, .long _, type, inferred, _ | path, .float _, type, inferred, _
  | path, .double _, type, inferred, _ | path, .string _, type, inferred, _
  | path, .bytes _, type, inferred, _ | path, .date _, type, inferred, _
  | path, .time _, type, inferred, _ | path, .timestamp _, type, inferred, _
  | path, .duration _, type, inferred, _ => by
    cases inferred
    rfl

/-- Joining the types of further items admits these and what was admitted before. -/
theorem items_fit_inferred (record : Nat) :
    (path : String) → (seen : DataType) → (items : List Value) → (type : DataType) →
      inferItems record path seen items = .ok type →
      (type.NamesDistinct → ∀ item ∈ items, Fits type item) ∧ seen.Widens type
  | path, seen, [], type, inferred => by
    cases inferred
    exact ⟨by simp, .refl seen⟩
  | path, seen, item :: rest, type, inferred => by
    simp only [inferItems] at inferred
    rw [bind_eq_ok_iff] at inferred
    obtain ⟨found, first, inferred⟩ := inferred
    rw [bind_eq_ok_iff] at inferred
    obtain ⟨joined, join, later⟩ := inferred
    rw [joinAt_ok_iff] at join
    obtain ⟨each, widened⟩ := items_fit_inferred record path joined rest type later
    obtain ⟨seenWidens, foundWidens⟩ := widens_of_join seen found joined join
    have whole := foundWidens.trans widened
    refine ⟨?_, seenWidens.trans widened⟩
    intro distinct other member
    rcases List.mem_cons.mp member with same | inside
    · subst other
      apply whole.keeps
      exact fits_inferred record path item found first (whole.distinct distinct)
    · exact each distinct other inside

theorem pairs_fit_inferred (record : Nat) :
    (path : String) → (key held : DataType) → (entries : List (Value × Value)) →
      (keyType heldType : DataType) →
      inferPairs record path key held entries = .ok (keyType, heldType) →
      (keyType.NamesDistinct → heldType.NamesDistinct →
        ∀ entry ∈ entries, Fits keyType entry.1 ∧ Fits heldType entry.2) ∧
        key.Widens keyType ∧ held.Widens heldType
  | path, key, held, [], keyType, heldType, inferred => by
    cases inferred
    exact ⟨by simp, .refl key, .refl held⟩
  | path, key, held, (k, v) :: rest, keyType, heldType, inferred => by
    simp only [inferPairs] at inferred
    rw [bind_eq_ok_iff] at inferred
    obtain ⟨foundKey, firstKey, inferred⟩ := inferred
    rw [bind_eq_ok_iff] at inferred
    obtain ⟨joinedKey, joinKey, inferred⟩ := inferred
    rw [bind_eq_ok_iff] at inferred
    obtain ⟨foundValue, firstValue, inferred⟩ := inferred
    rw [bind_eq_ok_iff] at inferred
    obtain ⟨joinedValue, joinValue, later⟩ := inferred
    rw [joinAt_ok_iff] at joinKey joinValue
    obtain ⟨each, keyWidened, valueWidened⟩ :=
      pairs_fit_inferred record path joinedKey joinedValue rest keyType heldType later
    obtain ⟨seenKey, newKey⟩ := widens_of_join key foundKey joinedKey joinKey
    obtain ⟨seenValue, newValue⟩ := widens_of_join held foundValue joinedValue joinValue
    have wholeKey := newKey.trans keyWidened
    have wholeValue := newValue.trans valueWidened
    refine ⟨?_, seenKey.trans keyWidened, seenValue.trans valueWidened⟩
    intro keyDistinct valueDistinct entry member
    rcases List.mem_cons.mp member with same | inside
    · subst entry
      constructor
      · apply wholeKey.keeps
        exact fits_inferred record (keyPath path) k foundKey firstKey
          (wholeKey.distinct keyDistinct)
      · apply wholeValue.keeps
        exact fits_inferred record (valuePath path) v foundValue firstValue
          (wholeValue.distinct valueDistinct)
    · exact each keyDistinct valueDistinct entry inside

theorem members_inferred (record : Nat) :
    (path : String) → (position : Nat) → (items : List Value) → (fields : List Field) →
      inferMembers record path position items = .ok fields → InferredFrom fields items
  | path, position, [], fields, inferred => by
    cases inferred
    exact .nil
  | path, position, item :: rest, fields, inferred => by
    simp only [inferMembers] at inferred
    rw [bind_eq_ok_iff] at inferred
    obtain ⟨type, first, inferred⟩ := inferred
    rw [bind_eq_ok_iff] at inferred
    obtain ⟨others, later, whole⟩ := inferred
    rw [pure_eq_ok_iff] at whole
    subst fields
    exact .cons (fits_inferred record _ item type first)
      (members_inferred record path (position + 1) rest others later)

theorem entries_inferred (record : Nat) :
    (path : String) → (entries : List (String × Value)) → (fields : List Field) →
      inferEntries record path entries = .ok fields →
      fields.map Prod.fst = entries.map Prod.fst ∧
        InferredFrom fields (entries.map Prod.snd)
  | path, [], fields, inferred => by
    cases inferred
    exact ⟨rfl, .nil⟩
  | path, (name, item) :: rest, fields, inferred => by
    simp only [inferEntries] at inferred
    rw [bind_eq_ok_iff] at inferred
    obtain ⟨type, first, inferred⟩ := inferred
    rw [bind_eq_ok_iff] at inferred
    obtain ⟨others, later, whole⟩ := inferred
    rw [pure_eq_ok_iff] at whole
    subst fields
    obtain ⟨names, each⟩ := entries_inferred record path rest others later
    refine ⟨by simp [names], ?_⟩
    exact .cons (fits_inferred record (memberPath path name) item type first) each

end

end TableLoad

import TableLoad.Proofs.Conversion.Fitting
import TableLoad.Proofs.Value.Decimal

/-!
# Joining types loses no value

Whatever fits one of two types fits their join, at every depth and whether or not
the types are well formed.
-/

set_option autoImplicit false

namespace TableLoad

/-! ## Atomic types -/

theorem coerce_of_rank_le {a b : Atom} {i j : Nat} (first : a.rank? = some i)
    (second : b.rank? = some j) (ordered : i ≤ j) (value : Value)
    (stored : (coerce? a value).isSome = true) : (coerce? b value).isSome = true := by
  cases a <;> simp [Atom.rank?] at first <;> subst first <;>
    cases b <;> simp [Atom.rank?] at second <;> subst second <;>
    first
      | omega
      | (cases value <;> simp_all [coerce?])

/-- A decimal that one decimal type holds is held by every type with at least as
many digits after and before the point, within the largest precision. -/
theorem coerce_of_wider_decimal {p₁ s₁ p s : UInt8} (scales : s₁.toNat ≤ s.toNat)
    (digits : p₁.toNat + s.toNat ≤ p.toNat + s₁.toNat) (positive : s.toNat ≤ p.toNat)
    (within : p.toNat ≤ maxPrecision) (value : Value)
    (stored : (coerce? (.decimal p₁ s₁) value).isSome = true) :
    (coerce? (.decimal p s) value).isSome = true := by
  cases value with
  | decimal d =>
    rw [coerce_decimal_iff] at stored ⊢
    obtain ⟨e, rescaled, short⟩ := stored
    rw [Decimal.rescale_eq_some_iff] at rescaled
    obtain ⟨wider, _, _, unscaled⟩ := rescaled
    rw [Decimal.digits_le_iff] at short
    have places : d.scale.toNat ≤ s₁.toNat := UInt8.le_iff_toNat_le.mp wider
    -- Two steps of rescaling multiply by one power of ten.
    have product : d.unscaled * 10 ^ (s.toNat - d.scale.toNat) =
        e.unscaled * 10 ^ (s.toNat - s₁.toNat) := by
      rw [unscaled, mul_assoc, ← pow_add]
      congr 2
      omega
    have small : (d.unscaled * 10 ^ (s.toNat - d.scale.toNat)).natAbs < 10 ^ p.toNat := by
      rw [product, Int.natAbs_mul, Int.natAbs_pow]
      calc
        e.unscaled.natAbs * 10 ^ (s.toNat - s₁.toNat)
            < 10 ^ p₁.toNat * 10 ^ (s.toNat - s₁.toNat) :=
          Nat.mul_lt_mul_of_pos_right short.2 (Nat.pow_pos (by decide))
        _ = 10 ^ (p₁.toNat + (s.toNat - s₁.toNat)) := (Nat.pow_add 10 _ _).symm
        _ ≤ 10 ^ p.toNat := Nat.pow_le_pow_right (by decide) (by omega)
    have factor : IsUnscaled (10 ^ (s.toNat - d.scale.toNat)) := by
      refine isUnscaled_of_natAbs_le _ (s.toNat - d.scale.toNat) (by omega) ?_
      rw [Int.natAbs_pow]
      exact Nat.le_refl _
    have range := isUnscaled_of_natAbs_le _ p.toNat within (Nat.le_of_lt small)
    refine ⟨⟨_, s, range⟩, ?_, ?_⟩
    · rw [Decimal.rescale_eq_some_iff]
      exact ⟨UInt8.le_iff_toNat_le.mpr (by omega), factor, rfl, rfl⟩
    · rw [Decimal.digits_le_iff]
      exact ⟨by omega, small⟩
  | _ => simp [coerce?] at stored

theorem joinDecimals_widens {p₁ s₁ p₂ s₂ : UInt8} {joined : Atom}
    (join : Atom.joinDecimals? p₁ s₁ p₂ s₂ = some joined) :
    ∃ p s : UInt8, joined = .decimal p s ∧ s.toNat ≤ p.toNat ∧ p.toNat ≤ maxPrecision ∧
      (s₁.toNat ≤ s.toNat ∧ p₁.toNat + s.toNat ≤ p.toNat + s₁.toNat) ∧
      (s₂.toNat ≤ s.toNat ∧ p₂.toNat + s.toNat ≤ p.toNat + s₂.toNat) := by
  simp only [Atom.joinDecimals?] at join
  split at join
  · rename_i within
    have larger : (max s₁ s₂).toNat = max s₁.toNat s₂.toNat := by
      change (if s₁ ≤ s₂ then s₂ else s₁).toNat = _
      split
      · rename_i ordered
        have values := UInt8.le_iff_toNat_le.mp ordered
        omega
      · rename_i unordered
        have values := UInt8.le_iff_toNat_le.not.mp unordered
        omega
    have bound : max (p₁.toNat - s₁.toNat) (p₂.toNat - s₂.toNat) + (max s₁ s₂).toNat ≤ 38 := within
    have precision := UInt8.toNat_ofNat_of_lt'
      (Nat.lt_of_le_of_lt bound (by decide : 38 < UInt8.size))
    refine ⟨_, _, (Option.some.inj join).symm, ?_⟩
    rw [precision]
    refine ⟨?_, within, ⟨?_, ?_⟩, ⟨?_, ?_⟩⟩ <;> omega
  · cases join

theorem coerce_join {a b joined : Atom} (join : a.join? b = some joined) (value : Value)
    (stored : (coerce? a value).isSome = true ∨ (coerce? b value).isSome = true) :
    (coerce? joined value).isSome = true := by
  simp only [Atom.join?] at join
  split at join
  · rename_i same
    rw [← Option.some.inj join]
    rcases stored with left | right
    · exact left
    · exact same ▸ right
  · split at join
    · rename_i i j first second
      rw [← Option.some.inj join]
      split
      · rename_i ordered
        rcases stored with left | right
        · exact left
        · exact coerce_of_rank_le second first ordered value right
      · rename_i unordered
        rcases stored with left | right
        · exact coerce_of_rank_le first second (by omega) value left
        · exact right
    · split at join
      · obtain ⟨p, s, rfl, positive, within, first, second⟩ := joinDecimals_widens join
        rcases stored with left | right
        · exact coerce_of_wider_decimal first.1 first.2 positive within value left
        · exact coerce_of_wider_decimal second.1 second.2 positive within value right
      · cases join

/-! ## All types -/

theorem fits_withNullable (type : DataType) (value : Value) (nullable : Bool)
    (fit : Fits type value) (admitted : type.nullable = true → nullable = true) :
    Fits (type.withNullable nullable) value := by
  cases value with
  | null =>
    rw [fits_null] at fit ⊢
    cases type <;> simpa [DataType.withNullable, DataType.nullable] using admitted fit
  | _ => cases type <;> exact fit

theorem fits_null_atom (nullable : Bool) (value : Value) (fit : Fits (.atom .null nullable) value) :
    value = .null ∧ nullable = true := by
  by_cases absent : value = .null
  · rw [absent, fits_null] at fit
    exact ⟨absent, fit⟩
  · rw [fits_atom _ _ _ absent] at fit
    simp [coerce?] at fit

theorem join_unseen_right (type : DataType) (nullable : Bool) :
    type.join? (.atom .null nullable) =
      some (type.withNullable (type.nullable || nullable)) := by
  cases type with
  | atom kind m => cases kind <;> rfl
  | _ => rfl

theorem join_atoms {a b : Atom} (m n : Bool) (left : a ≠ .null) (right : b ≠ .null) :
    DataType.join? (.atom a m) (.atom b n) = (a.join? b).map (.atom · (m || n)) := by
  cases a <;> cases b <;> first | rfl | contradiction

theorem fits_join_unseen (type joined : DataType) (nullable : Bool)
    (join : type.join? (.atom .null nullable) = some joined) (value : Value)
    (fit : Fits type value ∨ Fits (.atom .null nullable) value) : Fits joined value := by
  rw [join_unseen_right] at join
  rw [← Option.some.inj join]
  rcases fit with left | right
  · exact fits_withNullable type value _ left (fun admitted => by simp [admitted])
  · obtain ⟨rfl, rfl⟩ := fits_null_atom nullable value right
    rw [fits_null]
    cases type <;> simp [DataType.withNullable, DataType.nullable]

theorem join_atom_iff (type joined : DataType) (b : Atom) (n : Bool)
    (compound : ∀ a m, type ≠ .atom a m) :
    type.join? (.atom b n) = some joined ↔
      b = .null ∧ type.withNullable (type.nullable || n) = joined := by
  by_cases unseen : b = .null
  · subst b
    simp [join_unseen_right]
  · cases type <;> simp [DataType.join?, unseen] at compound ⊢

theorem join_maps_iff (ka va kb vb joined : DataType) (m n : Bool) :
    DataType.join? (.map ka va m) (.map kb vb n) = some joined ↔
      ∃ key held, ka.join? kb = some key ∧ va.join? vb = some held ∧
        .map key held (m || n) = joined := by
  simp only [DataType.join?]
  cases ka.join? kb <;> cases va.join? vb <;> simp

theorem joinFields_cons_iff (name : String) (s : DataType) (fs gs joined : List Field) :
    DataType.joinFields? ((name, s) :: fs) gs = some joined ↔
      ∃ t others type rest, gs = (name, t) :: others ∧ s.join? t = some type ∧
        DataType.joinFields? fs others = some rest ∧ (name, type) :: rest = joined := by
  cases gs with
  | nil => simp [DataType.joinFields?]
  | cons g gs =>
    obtain ⟨other, t⟩ := g
    simp only [DataType.joinFields?, List.cons.injEq, Prod.mk.injEq]
    by_cases same : name = other
    · subst other
      cases first : s.join? t <;> cases later : DataType.joinFields? fs gs <;>
        simp_all
    · rw [if_neg same]
      constructor
      · intro join
        cases join
      · rintro ⟨_, _, _, _, ⟨⟨equal, _⟩, _⟩, _⟩
        exact absurd equal.symm same

theorem joinFields_nil_iff (gs joined : List Field) :
    DataType.joinFields? [] gs = some joined ↔ gs = [] ∧ joined = [] := by
  cases gs <;> simp [DataType.joinFields?, eq_comm]

theorem names_joinFields (fs gs joined : List Field)
    (join : DataType.joinFields? fs gs = some joined) :
    joined.map Prod.fst = fs.map Prod.fst ∧ joined.map Prod.fst = gs.map Prod.fst := by
  induction fs generalizing gs joined with
  | nil =>
    obtain ⟨rfl, rfl⟩ := (joinFields_nil_iff gs joined).mp join
    exact ⟨rfl, rfl⟩
  | cons f fs ih =>
    obtain ⟨t, others, type, rest, rfl, _, parts, rfl⟩ :=
      (joinFields_cons_iff f.1 f.2 fs gs joined).mp join
    obtain ⟨left, right⟩ := ih others rest parts
    simp [left, ← right]

mutual

theorem fits_join :
    (s t joined : DataType) → s.join? t = some joined →
      (value : Value) → Fits s value ∨ Fits t value → Fits joined value
  | .atom a m, t, joined, join, value, fit => by
    -- A type of which nothing was seen gives way to the other one.
    by_cases unseen : a = .null
    · subst a
      simp only [DataType.join?, Option.some.injEq] at join
      subst joined
      rcases fit with left | right
      · obtain ⟨rfl, rfl⟩ := fits_null_atom m value left
        rw [fits_null]
        cases t <;> simp [DataType.withNullable, DataType.nullable]
      · exact fits_withNullable t value _ right (fun admitted => by simp [admitted])
    · cases t with
      | atom b n =>
        by_cases later : b = .null
        · subst b
          exact fits_join_unseen (.atom a m) joined n join value fit
        · rw [join_atoms m n unseen later, Option.map_eq_some_iff] at join
          obtain ⟨kind, kinds, rfl⟩ := join
          by_cases absent : value = .null
          · subst value
            simpa [fits_null, DataType.nullable] using fit
          · rw [fits_atom _ _ _ absent, fits_atom _ _ _ absent] at fit
            rw [fits_atom _ _ _ absent]
            exact coerce_join kinds value fit
      | _ => simp [DataType.join?, unseen] at join
  | .array a m, t, joined, join, value, fit => by
    cases t with
    | atom b n =>
      obtain ⟨rfl, _⟩ := (join_atom_iff _ joined b n (by simp)).mp join
      exact fits_join_unseen (.array a m) joined n join value fit
    | array b n =>
      simp only [DataType.join?, Option.map_eq_some_iff] at join
      obtain ⟨element, elements, rfl⟩ := join
      cases value with
      | null => simpa [fits_null, DataType.nullable] using fit
      | list items =>
        simp only [Fits] at fit ⊢
        intro item member
        exact fits_join a b element elements item
          (fit.imp (fun left => left item member) (fun right => right item member))
      | _ => simp [Fits] at fit
    | _ => simp [DataType.join?] at join
  | .map ka va m, t, joined, join, value, fit => by
    cases t with
    | atom b n =>
      obtain ⟨rfl, _⟩ := (join_atom_iff _ joined b n (by simp)).mp join
      exact fits_join_unseen (.map ka va m) joined n join value fit
    | map kb vb n =>
      obtain ⟨key, held, keys, values, rfl⟩ := (join_maps_iff ka va kb vb joined m n).mp join
      cases value with
      | null => simpa [fits_null, DataType.nullable] using fit
      | map entries =>
        simp only [Fits] at fit ⊢
        intro entry member
        have both := fit.imp (fun left => left entry member) (fun right => right entry member)
        exact ⟨fits_join ka kb key keys entry.1 (both.imp And.left And.left),
          fits_join va vb held values entry.2 (both.imp And.right And.right)⟩
      | _ => simp [Fits] at fit
    | _ => simp [DataType.join?] at join
  | .row fs m, t, joined, join, value, fit => by
    cases t with
    | atom b n =>
      obtain ⟨rfl, _⟩ := (join_atom_iff _ joined b n (by simp)).mp join
      exact fits_join_unseen (.row fs m) joined n join value fit
    | row gs n =>
      simp only [DataType.join?, Option.map_eq_some_iff] at join
      obtain ⟨fields, parts, rfl⟩ := join
      obtain ⟨leftNames, rightNames⟩ := names_joinFields fs gs fields parts
      cases value with
      | null => simpa [fits_null, DataType.nullable] using fit
      | record r =>
        have leftWidth : fields.length = fs.length := by
          simpa using congrArg List.length leftNames
        have rightWidth : fields.length = gs.length := by
          simpa using congrArg List.length rightNames
        rw [fits_row, fits_row, RecordFits, RecordFits, ← leftNames, ← rightNames,
          ← leftWidth, ← rightWidth] at fit
        rw [fits_row]
        rcases fit with ⟨width, fitting⟩ | ⟨width, fitting⟩
        · exact ⟨width, fieldsFit_join fs gs fields parts _ 0 r (.inl fitting)⟩
        · exact ⟨width, fieldsFit_join fs gs fields parts _ 0 r (.inr fitting)⟩
      | _ => simp [Fits] at fit
    | _ => simp [DataType.join?] at join

theorem fieldsFit_join :
    (fs gs joined : List Field) → DataType.joinFields? fs gs = some joined →
      (names : List String) → (position : Nat) → (r : Record) →
      FieldsFit fs names position r ∨ FieldsFit gs names position r →
      FieldsFit joined names position r
  | [], gs, joined, join, names, position, r, fit => by
    obtain ⟨_, rfl⟩ := (joinFields_nil_iff gs joined).mp join
    simp [FieldsFit]
  | (a, s) :: fs, gs, joined, join, names, position, r, fit => by
    obtain ⟨t, others, type, rest, rfl, first, parts, rfl⟩ :=
      (joinFields_cons_iff a s fs gs joined).mp join
    cases names with
    | nil => simp [FieldsFit]
    | cons name names =>
      simp only [FieldsFit] at fit ⊢
      exact ⟨fits_join s t type first _ (fit.imp And.left And.left),
        fieldsFit_join fs others rest parts names (position + 1) r
          (fit.imp And.right And.right)⟩

end

end TableLoad

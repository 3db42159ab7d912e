import TableLoad.Proofs.DataType.Widening

/-!
# Distinct names at every depth

A well-formed schema has no two columns of one name, down to the innermost rows.
Joins take this property from no type: what a join has distinct was distinct in
both of its parts.
-/

set_option autoImplicit false

namespace TableLoad

namespace DataType

mutual

/-- The fields of every row in the type have different names. -/
def NamesDistinct : DataType → Prop
  | .atom _ _ => True
  | .array element _ => NamesDistinct element
  | .map key value _ => NamesDistinct key ∧ NamesDistinct value
  | .row fields _ => (fields.map Prod.fst).Nodup ∧ FieldsDistinct fields

def FieldsDistinct : List (String × DataType) → Prop
  | [] => True
  | (_, type) :: rest => NamesDistinct type ∧ FieldsDistinct rest

end

theorem fieldsDistinct_iff (fields : List Field) :
    FieldsDistinct fields ↔ ∀ field ∈ fields, field.2.NamesDistinct := by
  induction fields with
  | nil => simp [FieldsDistinct]
  | cons field rest ih => simp [FieldsDistinct, ih]

mutual

theorem namesDistinct_of_check :
    (type : DataType) → type.check = .ok () → type.NamesDistinct
  | .atom _ _, _ => by simp [NamesDistinct]
  | .array element _, checked => by
    simp only [check] at checked
    simp only [NamesDistinct]
    exact namesDistinct_of_check element checked
  | .map key value _, checked => by
    simp only [check] at checked
    rw [bind_eq_ok_iff] at checked
    obtain ⟨_, first, second⟩ := checked
    simp only [NamesDistinct]
    exact ⟨namesDistinct_of_check key first, namesDistinct_of_check value second⟩
  | .row fields _, checked => by
    simp only [check] at checked
    obtain ⟨distinct, _, parts⟩ := fieldsDistinct_of_check fields [] checked
    simp only [NamesDistinct]
    exact ⟨distinct, parts⟩

theorem fieldsDistinct_of_check :
    (fields : List Field) → (seen : List String) → checkFields seen fields = .ok () →
      (fields.map Prod.fst).Nodup ∧ (∀ name ∈ seen, name ∉ fields.map Prod.fst) ∧
        FieldsDistinct fields
  | [], seen, _ => by simp [FieldsDistinct]
  | (name, type) :: rest, seen, checked => by
    simp only [checkFields] at checked
    split at checked
    · cases checked
    · split at checked
      · cases checked
      · rename_i fresh
        rw [bind_eq_ok_iff] at checked
        obtain ⟨_, first, later⟩ := checked
        obtain ⟨distinct, apart, parts⟩ := fieldsDistinct_of_check rest (name :: seen) later
        simp only [List.map_cons, List.nodup_cons, FieldsDistinct]
        refine ⟨⟨apart name (by simp), distinct⟩, ?_, namesDistinct_of_check type first, parts⟩
        intro other member
        rw [List.mem_cons, not_or]
        refine ⟨?_, apart other (by simp [member])⟩
        intro same
        exact fresh (same ▸ member)

end

theorem namesDistinct_withNullable (type : DataType) (nullable : Bool) :
    (type.withNullable nullable).NamesDistinct ↔ type.NamesDistinct := by
  cases type <;> simp [withNullable, NamesDistinct]

theorem namesDistinct_of_join_atom (type joined : DataType) (kind : Atom) (nullable : Bool)
    (compound : ∀ a m, type ≠ .atom a m)
    (join : type.join? (.atom kind nullable) = some joined) (distinct : joined.NamesDistinct) :
    type.NamesDistinct := by
  obtain ⟨_, rfl⟩ := (join_atom_iff type joined kind nullable compound).mp join
  exact (namesDistinct_withNullable type _).mp distinct

mutual

theorem namesDistinct_of_join :
    (s t joined : DataType) → s.join? t = some joined → joined.NamesDistinct →
      s.NamesDistinct ∧ t.NamesDistinct
  | .atom a m, t, joined, join, distinct => by
    refine ⟨by simp [NamesDistinct], ?_⟩
    by_cases unseen : a = .null
    · subst a
      simp only [join?, Option.some.injEq] at join
      subst joined
      exact (namesDistinct_withNullable t _).mp distinct
    · cases t with
      | atom b n => simp [NamesDistinct]
      | _ => simp [join?, unseen] at join
  | .array a m, t, joined, join, distinct => by
    cases t with
    | atom b n =>
      refine ⟨namesDistinct_of_join_atom _ joined b n (by simp) join distinct, ?_⟩
      simp [NamesDistinct]
    | array b n =>
      simp only [join?, Option.map_eq_some_iff] at join
      obtain ⟨element, elements, rfl⟩ := join
      simp only [NamesDistinct] at distinct ⊢
      exact namesDistinct_of_join a b element elements distinct
    | _ => simp [join?] at join
  | .map ka va m, t, joined, join, distinct => by
    cases t with
    | atom b n =>
      refine ⟨namesDistinct_of_join_atom _ joined b n (by simp) join distinct, ?_⟩
      simp [NamesDistinct]
    | map kb vb n =>
      obtain ⟨key, held, keys, values, rfl⟩ := (join_maps_iff ka va kb vb joined m n).mp join
      simp only [NamesDistinct] at distinct ⊢
      have first := namesDistinct_of_join ka kb key keys distinct.1
      have second := namesDistinct_of_join va vb held values distinct.2
      exact ⟨⟨first.1, second.1⟩, ⟨first.2, second.2⟩⟩
    | _ => simp [join?] at join
  | .row fs m, t, joined, join, distinct => by
    cases t with
    | atom b n =>
      refine ⟨namesDistinct_of_join_atom _ joined b n (by simp) join distinct, ?_⟩
      simp [NamesDistinct]
    | row gs n =>
      simp only [join?, Option.map_eq_some_iff] at join
      obtain ⟨fields, parts, rfl⟩ := join
      obtain ⟨leftNames, rightNames⟩ := names_joinFields fs gs fields parts
      simp only [NamesDistinct] at distinct ⊢
      have inner := fieldsDistinct_of_join fs gs fields parts distinct.2
      exact ⟨⟨leftNames ▸ distinct.1, inner.1⟩, ⟨rightNames ▸ distinct.1, inner.2⟩⟩
    | _ => simp [join?] at join

theorem fieldsDistinct_of_join :
    (fs gs joined : List Field) → joinFields? fs gs = some joined → FieldsDistinct joined →
      FieldsDistinct fs ∧ FieldsDistinct gs
  | [], gs, joined, join, distinct => by
    obtain ⟨rfl, _⟩ := (joinFields_nil_iff gs joined).mp join
    simp [FieldsDistinct]
  | (a, s) :: fs, gs, joined, join, distinct => by
    obtain ⟨t, others, type, rest, rfl, first, parts, rfl⟩ :=
      (joinFields_cons_iff a s fs gs joined).mp join
    simp only [FieldsDistinct] at distinct ⊢
    have head := namesDistinct_of_join s t type first distinct.1
    have tail := fieldsDistinct_of_join fs others rest parts distinct.2
    exact ⟨⟨head.1, tail.1⟩, ⟨head.2, tail.2⟩⟩

end

/-! ## Widening -/

/-- The later type admits what the earlier one admits, and its names are distinct
only if those of the earlier one are. -/
structure Widens (before after : DataType) : Prop where
  distinct : after.NamesDistinct → before.NamesDistinct
  keeps : ∀ value, Fits before value → Fits after value

theorem Widens.refl (type : DataType) : type.Widens type :=
  ⟨fun distinct => distinct, fun _ fit => fit⟩

theorem Widens.trans {first second third : DataType} (early : first.Widens second)
    (late : second.Widens third) : first.Widens third where
  distinct := fun distinct => early.distinct (late.distinct distinct)
  keeps := fun value fit => late.keeps value (early.keeps value fit)

theorem widens_of_join (s t joined : DataType) (join : s.join? t = some joined) :
    s.Widens joined ∧ t.Widens joined := by
  constructor
  · constructor
    · intro distinct
      exact (namesDistinct_of_join s t joined join distinct).1
    · intro value fit
      exact fits_join s t joined join value (.inl fit)
  · constructor
    · intro distinct
      exact (namesDistinct_of_join s t joined join distinct).2
    · intro value fit
      exact fits_join s t joined join value (.inr fit)

end DataType

end TableLoad

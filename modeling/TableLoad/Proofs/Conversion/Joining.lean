import TableLoad.Proofs.Conversion.Agreement
import TableLoad.Proofs.DataType.Semilattice

/-!
# Records outlive joins

The join of two schemas is a schema, and it takes every record that one of the two
takes: the record verifies, it converts, and its row conforms.
-/

set_option autoImplicit false

namespace TableLoad

/-! ## Well-formed types -/

namespace Atom

theorem check_decimal_iff (p s : UInt8) :
    (decimal p s).check = .ok () ↔
      p.toNat ≠ 0 ∧ p.toNat ≤ maxPrecision ∧ s.toNat ≤ p.toNat := by
  have zero : p = 0 ↔ p.toNat = 0 := UInt8.toNat_inj.symm
  have less : p < s ↔ p.toNat < s.toNat := UInt8.lt_iff_toNat_lt
  simp only [check, zero, less]
  constructor
  · intro checked
    split at checked
    · cases checked
    · split at checked
      · cases checked
      · omega
  · rintro ⟨positive, within, places⟩
    rw [if_neg (by omega), if_neg (by omega)]

theorem check_join {a b joined : Atom} (join : a.join? b = some joined)
    (first : a.check = .ok ()) (second : b.check = .ok ()) : joined.check = .ok () := by
  rcases ranked_or_decimal_or_rigid a with ⟨i, ranked⟩ | ⟨p₁, s₁, rfl⟩ | ⟨unranked, whole⟩
  · obtain ⟨j, _, wider⟩ := (join_ranked_iff ranked b joined).mp join
    rw [← wider]
    split
    · exact first
    · exact second
  · obtain ⟨p₂, s₂, p, s, rfl, rfl, digits⟩ := (join_decimal_iff p₁ s₁ b joined).mp join
    rw [check_decimal_iff] at first second ⊢
    rcases digits with ⟨_, _, precision, scale⟩ | ⟨_, scale, precision, within⟩
    · rw [precision, scale]
      exact first
    · omega
  · obtain ⟨rfl, rfl⟩ := (join_rigid_iff unranked whole b joined).mp join
    exact first

end Atom

namespace DataType

theorem check_withNullable (type : DataType) (nullable : Bool) :
    (type.withNullable nullable).check = type.check := by
  cases type <;> simp [withNullable, check]

theorem check_map_iff (key held : DataType) (nullable : Bool) :
    (map key held nullable).check = .ok () ↔ key.check = .ok () ∧ held.check = .ok () := by
  rw [check, bind_eq_ok_iff]
  constructor
  · rintro ⟨_, first, second⟩
    exact ⟨first, second⟩
  · rintro ⟨first, second⟩
    exact ⟨(), first, second⟩

theorem checkFields_cons_iff (seen : List String) (name : String) (type : DataType)
    (rest : List Field) :
    checkFields seen ((name, type) :: rest) = .ok () ↔
      name ≠ "" ∧ name ∉ seen ∧ type.check = .ok () ∧
        checkFields (name :: seen) rest = .ok () := by
  rw [checkFields]
  by_cases blank : name = ""
  · simp [blank]
  · by_cases taken : name ∈ seen
    · simp [blank, taken]
    · rw [if_neg blank, if_neg taken, bind_eq_ok_iff]
      constructor
      · rintro ⟨_, head, tail⟩
        exact ⟨blank, taken, head, tail⟩
      · rintro ⟨_, _, head, tail⟩
        exact ⟨(), head, tail⟩

theorem check_join_unseen {type joined : DataType} {nullable : Bool}
    (join : type.join? (.atom .null nullable) = some joined) (checked : type.check = .ok ()) :
    joined.check = .ok () := by
  rw [join_unseen_right, Option.some.injEq] at join
  rw [← join, check_withNullable]
  exact checked

mutual

theorem check_join : (s t joined : DataType) → s.join? t = some joined →
    s.check = .ok () → t.check = .ok () → joined.check = .ok ()
  | .atom a m, t, joined, join, first, second => by
    by_cases unseen : a = .null
    · subst a
      exact check_join_unseen (join_swap _ t joined join) second
    · cases t with
      | atom b n =>
        by_cases later : b = .null
        · subst b
          exact check_join_unseen join first
        · rw [join_atoms m n unseen later, Option.map_eq_some_iff] at join
          obtain ⟨kind, kinds, rfl⟩ := join
          exact Atom.check_join kinds first second
      | _ => simp [join?, unseen] at join
  | .array a m, t, joined, join, first, second => by
    cases t with
    | atom b n =>
      obtain ⟨rfl, _⟩ := (join_atom_iff _ joined b n (by simp)).mp join
      exact check_join_unseen join first
    | array b n =>
      simp only [join?, Option.map_eq_some_iff] at join
      obtain ⟨element, elements, rfl⟩ := join
      rw [check] at first second ⊢
      exact check_join a b element elements first second
    | _ => simp [join?] at join
  | .map ka va m, t, joined, join, first, second => by
    cases t with
    | atom b n =>
      obtain ⟨rfl, _⟩ := (join_atom_iff _ joined b n (by simp)).mp join
      exact check_join_unseen join first
    | map kb vb n =>
      obtain ⟨key, held, keys, values, rfl⟩ := (join_maps_iff ka va kb vb joined m n).mp join
      rw [check_map_iff] at first second ⊢
      exact ⟨check_join ka kb key keys first.1 second.1,
        check_join va vb held values first.2 second.2⟩
    | _ => simp [join?] at join
  | .row fs m, t, joined, join, first, second => by
    cases t with
    | atom b n =>
      obtain ⟨rfl, _⟩ := (join_atom_iff _ joined b n (by simp)).mp join
      exact check_join_unseen join first
    | row gs n =>
      simp only [join?, Option.map_eq_some_iff] at join
      obtain ⟨fields, parts, rfl⟩ := join
      rw [check] at first second ⊢
      exact checkFields_join fs gs fields parts [] first second
    | _ => simp [join?] at join

theorem checkFields_join : (fs gs joined : List Field) → joinFields? fs gs = some joined →
    (seen : List String) → checkFields seen fs = .ok () → checkFields seen gs = .ok () →
      checkFields seen joined = .ok ()
  | [], gs, joined, join, seen, first, _ => by
    obtain ⟨_, rfl⟩ := (joinFields_nil_iff gs joined).mp join
    exact first
  | (name, s) :: fs, gs, joined, join, seen, first, second => by
    obtain ⟨t, others, type, rest, rfl, head, tail, rfl⟩ :=
      (joinFields_cons_iff name s fs gs joined).mp join
    rw [checkFields_cons_iff] at first second ⊢
    obtain ⟨named, fresh, headFirst, tailFirst⟩ := first
    obtain ⟨_, _, headSecond, tailSecond⟩ := second
    exact ⟨named, fresh, check_join s t type head headFirst headSecond,
      checkFields_join fs others rest tail (name :: seen) tailFirst tailSecond⟩

end

end DataType

/-! ## Records -/

theorem recordFits_join {fs gs joined : List Field}
    (join : DataType.joinFields? fs gs = some joined) (names : List String) (record : Record)
    (fit : RecordFits fs names record ∨ RecordFits gs names record) :
    RecordFits joined names record := by
  obtain ⟨left, right⟩ := names_joinFields fs gs joined join
  have leftWidth : joined.length = fs.length := by simpa using congrArg List.length left
  have rightWidth : joined.length = gs.length := by simpa using congrArg List.length right
  rcases fit with ⟨width, fitting⟩ | ⟨width, fitting⟩
  · rw [← leftWidth] at width
    exact ⟨width, fieldsFit_join fs gs joined join names 0 record (.inl fitting)⟩
  · rw [← rightWidth] at width
    exact ⟨width, fieldsFit_join fs gs joined join names 0 record (.inr fitting)⟩

theorem Schema.exists_of_join {s t : Schema} {type : DataType}
    (join : s.rowType.join? t.rowType = some type) :
    ∃ joined : Schema, joined.rowType = type ∧
      DataType.joinFields? s.fields t.fields = some joined.fields := by
  simp only [Schema.rowType, DataType.join?, Option.map_eq_some_iff] at join
  obtain ⟨fields, parts, rfl⟩ := join
  have checked := DataType.checkFields_join s.fields t.fields fields parts [] s.wellFormed
    t.wellFormed
  exact ⟨⟨fields, checked⟩, rfl, parts⟩

/-- A value or a record that verifies against one of two types or schemas verifies
against their join, and it converts to what the join stores. -/
theorem join_keeps_verified :
    (∀ s t joined : DataType, s.join? t = some joined →
      ∀ (index : Nat) (path : String) (value : Value),
        verifyValue index s path value = .ok () ∨ verifyValue index t path value = .ok () →
          verifyValue index joined path value = .ok () ∧
            ∃ stored, convertValue index joined path value = .ok stored ∧
              conforms joined stored = true) ∧
    (∀ (s t : Schema) (type : DataType), s.rowType.join? t.rowType = some type →
      ∃ joined : Schema, joined.rowType = type ∧
        ∀ (index : Nat) (record : Record),
          s.verify index record = .ok () ∨ t.verify index record = .ok () →
            joined.verify index record = .ok () ∧
              ∃ row, joined.convert index record = .ok row ∧ RowConforms joined.fields row) := by
  constructor
  · intro s t joined join index path value verified
    rw [verifyValue_ok_iff, verifyValue_ok_iff] at verified
    have fit := fits_join s t joined join value verified
    exact ⟨(verifyValue_ok_iff index joined path value).mpr fit,
      convertValue_of_fits index joined path value fit⟩
  · intro s t type join
    obtain ⟨joined, whole, parts⟩ := Schema.exists_of_join join
    refine ⟨joined, whole, ?_⟩
    intro index record verified
    obtain ⟨left, right⟩ := names_joinFields s.fields t.fields joined.fields parts
    have first : s.names = joined.names := left.symm
    have second : t.names = joined.names := right.symm
    rw [Schema.verify, Schema.verify, verifyUnder_ok_iff, verifyUnder_ok_iff, first, second]
      at verified
    have fit := recordFits_join parts joined.names record verified
    constructor
    · rw [Schema.verify, verifyUnder_ok_iff]
      exact fit
    · apply (recordFits_iff_convert joined.fields joined.names index record _).mp fit
      simp [Schema.names]

def retailOrders : Schema where
  fields :=
    [("price", .atom (.decimal 5 2) false),
      ("items", .array (.row [("count", .atom .int false)] false) false)]
  wellFormed := rfl

def wholesaleOrders : Schema where
  fields :=
    [("price", .atom (.decimal 10 0) true),
      ("items", .array (.row [("count", .atom .boolean true)] false) false)]
  wellFormed := rfl

def orders : Schema where
  fields :=
    [("price", .atom (.decimal 12 2) true),
      ("items", .array (.row [("count", .atom .int true)] false) false)]
  wellFormed := rfl

/-- A wholesale order with a price of ten digits and an item that is not ticked. -/
def bulkOrder : Record :=
  .named .row
    [("items", .list [.record (.positional .tuple [.bool true]),
        .record (.positional .row [.null])]),
      ("price", .decimal ⟨1234567890, 0, by decide⟩)]

theorem bulkOrder_kept :
    wholesaleOrders.verify 7 bulkOrder = .ok () ∧
      (∃ stored, convertValue 7 orders.rowType "order" (.record bulkOrder) = .ok stored ∧
        conforms orders.rowType stored = true) ∧
      ∃ joined : Schema, joined.rowType = orders.rowType ∧
        joined.verify 7 bulkOrder = .ok () := by
  have join : retailOrders.rowType.join? wholesaleOrders.rowType = some orders.rowType := by
    decide +kernel
  have verified : wholesaleOrders.verify 7 bulkOrder = .ok () := by rfl
  have nested : verifyValue 7 wholesaleOrders.rowType "order" (.record bulkOrder) = .ok () := by
    rfl
  refine ⟨verified, ?_, ?_⟩
  · exact (join_keeps_verified.1 _ _ _ join 7 "order" _ (.inr nested)).2
  · obtain ⟨joined, whole, kept⟩ := join_keeps_verified.2 retailOrders wholesaleOrders _ join
    exact ⟨joined, whole, (kept 7 bulkOrder (.inr verified)).1⟩

end TableLoad

import TableLoad.Proofs.DataType.Widening

/-!
# Joins form a partial semilattice

Joining is commutative, idempotent and associative on all types, well formed or
not, where a join that fails makes every larger one fail.  The order that belongs
to it is acceptance: a type accepts two others exactly if it accepts their join.
-/

set_option autoImplicit false

namespace TableLoad

namespace Atom

/-! ## Numbers -/

theorem rank_injective {a b : Atom} {i : Nat} (first : a.rank? = some i)
    (second : b.rank? = some i) : a = b := by
  cases a <;> simp [rank?] at first <;> subst first <;>
    cases b <;> simp [rank?] at second <;> rfl

theorem join_ranked_iff {a : Atom} {i : Nat} (ranked : a.rank? = some i) (b joined : Atom) :
    a.join? b = some joined ↔
      ∃ j, b.rank? = some j ∧ (if j ≤ i then a else b) = joined := by
  by_cases same : a = b
  · subst b
    simp [join?, ranked]
  · cases second : b.rank? with
    | none =>
      have apart : a.join? b = none := by
        cases a <;> simp [rank?] at ranked <;> simp [join?, same, second]
      simp [apart]
    | some j => simp [join?, same, ranked, second]

/-! ## Decimals -/

/-- Precision and scale of the join of two decimals.  Equal ones are kept as they
are; of others the larger scale and the larger number of digits before the point
count. -/
def DecimalsJoin (p₁ s₁ p₂ s₂ p s : Nat) : Prop :=
  (p₁ = p₂ ∧ s₁ = s₂ ∧ p = p₁ ∧ s = s₁) ∨
    (¬ (p₁ = p₂ ∧ s₁ = s₂) ∧
      s = max s₁ s₂ ∧ p = max (p₁ - s₁) (p₂ - s₂) + s ∧ p ≤ maxPrecision)

theorem DecimalsJoin.symm {p₁ s₁ p₂ s₂ p s : Nat} (join : DecimalsJoin p₁ s₁ p₂ s₂ p s) :
    DecimalsJoin p₂ s₂ p₁ s₁ p s := by
  rcases join with ⟨rfl, rfl, rfl, rfl⟩ | ⟨apart, rfl, rfl, within⟩
  · exact .inl ⟨rfl, rfl, rfl, rfl⟩
  · refine .inr ⟨?_, Nat.max_comm _ _, ?_, within⟩
    · rintro ⟨rfl, rfl⟩
      exact apart ⟨rfl, rfl⟩
    · rw [Nat.max_comm (p₁ - s₁)]

theorem DecimalsJoin.of_widest {p₁ s₁ p₂ s₂ p s : Nat} (places : s₂ ≤ p₂)
    (scale : s = max s₁ s₂) (precision : p = max (p₁ - s₁) (p₂ - s₂) + s)
    (within : p ≤ maxPrecision) : DecimalsJoin p₁ s₁ p₂ s₂ p s := by
  by_cases same : p₁ = p₂ ∧ s₁ = s₂
  · obtain ⟨rfl, rfl⟩ := same
    exact .inl ⟨rfl, rfl, by omega, by omega⟩
  · exact .inr ⟨same, scale, precision, within⟩

theorem DecimalsJoin.assoc {p₁ s₁ p₂ s₂ p₃ s₃ p s q t : Nat}
    (first : DecimalsJoin p₁ s₁ p₂ s₂ p s) (second : DecimalsJoin p s p₃ s₃ q t) :
    ∃ u v, DecimalsJoin p₂ s₂ p₃ s₃ u v ∧ DecimalsJoin p₁ s₁ u v q t := by
  by_cases later : p₂ = p₃ ∧ s₂ = s₃
  · obtain ⟨rfl, rfl⟩ := later
    refine ⟨p₂, s₂, .inl ⟨rfl, rfl, rfl, rfl⟩, ?_⟩
    rcases first with ⟨rfl, rfl, rfl, rfl⟩ | ⟨apart, rfl, rfl, within⟩
    · exact second
    · refine .inr ⟨apart, ?_⟩
      rcases second with ⟨_, _, rfl, rfl⟩ | ⟨_, rfl, rfl, _⟩
      · exact ⟨rfl, rfl, within⟩
      · omega
  · have widest : t = max s₁ (max s₂ s₃) ∧
        q = max (p₁ - s₁) (max (p₂ - s₂) (p₃ - s₃)) + t ∧ q ≤ maxPrecision := by
      rcases first with ⟨rfl, rfl, rfl, rfl⟩ | ⟨_, rfl, rfl, small⟩
      · rcases second with ⟨rfl, rfl, _, _⟩ | ⟨_, rfl, rfl, within⟩
        · exact absurd ⟨rfl, rfl⟩ later
        · omega
      · rcases second with ⟨rfl, rfl, rfl, rfl⟩ | ⟨_, rfl, rfl, within⟩
        · rw [Nat.add_sub_cancel]
          generalize p₁ - s₁ = i, p₂ - s₂ = j at *
          omega
        · rw [Nat.add_sub_cancel] at within ⊢
          rw [Nat.max_assoc, Nat.max_assoc] at within ⊢
          exact ⟨rfl, rfl, within⟩
    obtain ⟨scale, precision, within⟩ := widest
    refine ⟨max (p₂ - s₂) (p₃ - s₃) + max s₂ s₃, max s₂ s₃, .inr ⟨later, rfl, rfl, by omega⟩, ?_⟩
    exact .of_widest (Nat.le_add_left _ _) scale (by rw [Nat.add_sub_cancel, precision]) within

theorem DecimalsJoin.byte_sized {p₁ s₁ p₂ s₂ p s : Nat} (join : DecimalsJoin p₁ s₁ p₂ s₂ p s)
    (first : p₁ < 256) (second : s₁ < 256) : p < 256 ∧ s < 256 := by
  rcases join with ⟨_, _, rfl, rfl⟩ | ⟨_, _, precision, within⟩
  · exact ⟨first, second⟩
  · have bound : maxPrecision = 38 := rfl
    omega

theorem join_decimal_iff (p₁ s₁ : UInt8) (b joined : Atom) :
    (decimal p₁ s₁).join? b = some joined ↔
      ∃ p₂ s₂ p s, b = .decimal p₂ s₂ ∧ joined = .decimal p s ∧
        DecimalsJoin p₁.toNat s₁.toNat p₂.toNat s₂.toNat p.toNat s.toNat := by
  cases b with
  | decimal p₂ s₂ =>
    by_cases same : p₁ = p₂ ∧ s₁ = s₂
    · obtain ⟨rfl, rfl⟩ := same
      simp only [join?, if_true, Option.some.injEq]
      constructor
      · rintro rfl
        exact ⟨p₁, s₁, p₁, s₁, rfl, rfl, .inl ⟨rfl, rfl, rfl, rfl⟩⟩
      · rintro ⟨_, _, p, s, equal, rfl, ⟨_, _, precision, scale⟩ | ⟨apart, _⟩⟩
        · rw [UInt8.toNat_inj.mp precision, UInt8.toNat_inj.mp scale]
        · cases equal
          exact absurd ⟨rfl, rfl⟩ apart
    · have apart : ¬ (p₁.toNat = p₂.toNat ∧ s₁.toNat = s₂.toNat) := by
        rwa [UInt8.toNat_inj, UInt8.toNat_inj]
      have unequal : decimal p₁ s₁ ≠ decimal p₂ s₂ := by simpa using same
      have scale := UInt8.toNat_max s₁ s₂
      rw [join?, if_neg unequal]
      simp only [rank?, joinDecimals?, scale]
      constructor
      · intro join
        split at join
        · rename_i within
          have precision := UInt8.toNat_ofNat_of_lt'
            (Nat.lt_of_le_of_lt within (by decide : maxPrecision < UInt8.size))
          refine ⟨_, _, _, _, rfl, (Option.some.inj join).symm, .inr ⟨apart, scale, ?_, ?_⟩⟩
          · rw [precision, scale]
          · rw [precision]
            exact within
        · cases join
      · rintro ⟨p, s, q, t, equal, rfl, ⟨left, right, _⟩ | ⟨_, larger, digits, within⟩⟩
        · cases equal
          exact absurd ⟨left, right⟩ apart
        · cases equal
          rw [larger] at digits
          have widest : max s₁ s₂ = t := by
            rw [← UInt8.toNat_inj, scale, larger]
          rw [← digits, if_pos within, widest, UInt8.ofNat_toNat]
  | _ => simp [join?, rank?]

/-! ## All atomic types -/

theorem join_rigid_iff {a : Atom} (unranked : a.rank? = none) (whole : ∀ p s, a ≠ .decimal p s)
    (b joined : Atom) : a.join? b = some joined ↔ a = b ∧ a = joined := by
  by_cases same : a = b
  · subst b
    simp [join?]
  · cases a <;> simp [rank?] at unranked whole <;> simp [join?, rank?, same]

theorem ranked_or_decimal_or_rigid (a : Atom) :
    (∃ i, a.rank? = some i) ∨ (∃ p s, a = .decimal p s) ∨
      (a.rank? = none ∧ ∀ p s, a ≠ .decimal p s) := by
  cases a <;> simp [rank?]

theorem join_self (a : Atom) : a.join? a = some a := by
  simp [join?]

theorem join_swap {a b joined : Atom} (join : a.join? b = some joined) :
    b.join? a = some joined := by
  rcases ranked_or_decimal_or_rigid a with ⟨i, ranked⟩ | ⟨p₁, s₁, rfl⟩ | ⟨unranked, whole⟩
  · obtain ⟨j, second, wider⟩ := (join_ranked_iff ranked b joined).mp join
    refine (join_ranked_iff second a joined).mpr ⟨i, ranked, ?_⟩
    rw [← wider]
    by_cases level : i = j
    · subst j
      simp [rank_injective ranked second]
    · split <;> split <;> first | rfl | omega
  · obtain ⟨p₂, s₂, p, s, rfl, rfl, digits⟩ := (join_decimal_iff p₁ s₁ b joined).mp join
    exact (join_decimal_iff p₂ s₂ _ _).mpr ⟨p₁, s₁, p, s, rfl, rfl, digits.symm⟩
  · obtain ⟨rfl, rfl⟩ := (join_rigid_iff unranked whole b joined).mp join
    exact join_self a

theorem join_regroup {a b c left joined : Atom} (first : a.join? b = some left)
    (second : left.join? c = some joined) :
    ∃ right, b.join? c = some right ∧ a.join? right = some joined := by
  rcases ranked_or_decimal_or_rigid a with ⟨i, ranked⟩ | ⟨p₁, s₁, rfl⟩ | ⟨unranked, whole⟩
  · -- Either way the join is the widest of the three.
    obtain ⟨j, rankB, rfl⟩ := (join_ranked_iff ranked b left).mp first
    have rankLeft : (if j ≤ i then a else b).rank? = some (if j ≤ i then i else j) := by
      split
      · exact ranked
      · exact rankB
    obtain ⟨k, rankC, rfl⟩ := (join_ranked_iff rankLeft c joined).mp second
    refine ⟨_, (join_ranked_iff rankB c _).mpr ⟨k, rankC, rfl⟩, ?_⟩
    have rankRight : (if k ≤ j then b else c).rank? = some (if k ≤ j then j else k) := by
      split
      · exact rankB
      · exact rankC
    refine (join_ranked_iff ranked _ _).mpr ⟨_, rankRight, ?_⟩
    split_ifs <;> first | rfl | omega
  · obtain ⟨p₂, s₂, p, s, rfl, rfl, inner⟩ := (join_decimal_iff p₁ s₁ b left).mp first
    obtain ⟨p₃, s₃, q, t, rfl, rfl, outer⟩ := (join_decimal_iff p s c joined).mp second
    obtain ⟨u, v, others, all⟩ := inner.assoc outer
    obtain ⟨precision, scale⟩ := others.byte_sized p₂.toNat_lt s₂.toNat_lt
    rw [← UInt8.toNat_ofNat_of_lt' precision, ← UInt8.toNat_ofNat_of_lt' scale] at others all
    exact ⟨_, (join_decimal_iff p₂ s₂ _ _).mpr ⟨p₃, s₃, _, _, rfl, rfl, others⟩,
      (join_decimal_iff p₁ s₁ _ _).mpr ⟨_, _, q, t, rfl, rfl, all⟩⟩
  · obtain ⟨rfl, rfl⟩ := (join_rigid_iff unranked whole b left).mp first
    obtain ⟨rfl, rfl⟩ := (join_rigid_iff unranked whole c joined).mp second
    exact ⟨a, join_self a, join_self a⟩

theorem join_ne_null {a b joined : Atom} (seen : a ≠ .null) (join : a.join? b = some joined) :
    joined ≠ .null := by
  rintro rfl
  rcases ranked_or_decimal_or_rigid a with ⟨i, ranked⟩ | ⟨p, s, rfl⟩ | ⟨unranked, whole⟩
  · obtain ⟨j, second, wider⟩ := (join_ranked_iff ranked b .null).mp join
    split at wider
    · exact seen wider
    · subst b
      cases second
  · obtain ⟨_, _, _, _, _, equal, _⟩ := (join_decimal_iff p s b .null).mp join
    cases equal
  · exact seen ((join_rigid_iff unranked whole b .null).mp join).2

end Atom

namespace DataType

/-! ## Nullability -/

@[simp] theorem nullable_withNullable (type : DataType) (nullable : Bool) :
    (type.withNullable nullable).nullable = nullable := by
  cases type <;> rfl

@[simp] theorem withNullable_withNullable (type : DataType) (first second : Bool) :
    (type.withNullable first).withNullable second = type.withNullable second := by
  cases type <;> rfl

@[simp] theorem withNullable_nullable (type : DataType) :
    type.withNullable type.nullable = type := by
  cases type <;> rfl

theorem join_unseen_left (type : DataType) (nullable : Bool) :
    join? (.atom .null nullable) type = some (type.withNullable (nullable || type.nullable)) := by
  simp [join?]

theorem unobserved_join (type : DataType) : unobserved.join? type = some type := by
  rw [unobserved, join_unseen_left, Bool.false_or, withNullable_nullable]

theorem join_withNullable (s t : DataType) (nullable : Bool) :
    (s.withNullable nullable).join? t =
      (s.join? t).map (·.withNullable (nullable || t.nullable)) := by
  by_cases blank : ∃ m, s = .atom .null m
  · obtain ⟨m, rfl⟩ := blank
    have still : (atom .null m).withNullable nullable = .atom .null nullable := rfl
    simp [still, join_unseen_left]
  by_cases unseen : ∃ n, t = .atom .null n
  · obtain ⟨n, rfl⟩ := unseen
    have admits : (atom .null n).nullable = n := rfl
    simp [join_unseen_right, admits]
  cases s with
  | atom a m =>
    have left : a ≠ .null := fun same => blank ⟨m, by rw [same]⟩
    cases t with
    | atom b n =>
      have right : b ≠ .null := fun same => unseen ⟨n, by rw [same]⟩
      simp only [withNullable, join_atoms _ n left right, Option.map_map]
      rfl
    | _ => simp [withNullable, join?, left]
  | array a m =>
    cases t with
    | array b n =>
      simp only [withNullable, join?, Option.map_map]
      rfl
    | atom b n => cases b <;> rfl
    | _ => rfl
  | map ka va m =>
    cases t with
    | map kb vb n =>
      simp only [withNullable, join?]
      cases ka.join? kb <;> cases va.join? vb <;> rfl
    | atom b n => cases b <;> rfl
    | _ => rfl
  | row fs m =>
    cases t with
    | row gs n =>
      simp only [withNullable, join?, Option.map_map]
      rfl
    | atom b n => cases b <;> rfl
    | _ => rfl

theorem nullable_join {s t joined : DataType} (join : s.join? t = some joined) :
    joined.nullable = (s.nullable || t.nullable) := by
  have same := join_withNullable s t s.nullable
  rw [withNullable_nullable, join, Option.map_some, Option.some.injEq] at same
  rw [same, nullable_withNullable]

/-! ## Idempotence and commutativity -/

mutual

theorem join_self : (type : DataType) → type.join? type = some type
  | .atom kind nullable => by
    by_cases unseen : kind = .null
    · subst kind
      simp [join_unseen_left, withNullable, DataType.nullable]
    · simp [join_atoms nullable nullable unseen unseen, Atom.join_self]
  | .array element nullable => by
    simp [join?, join_self element]
  | .map key value nullable => by
    simp [join?, join_self key, join_self value]
  | .row fields nullable => by
    simp [join?, joinFields_self fields]

theorem joinFields_self : (fields : List Field) → joinFields? fields fields = some fields
  | [] => rfl
  | (name, type) :: rest => by
    simp [joinFields?, join_self type, joinFields_self rest]

end

mutual

theorem join_swap : (s t joined : DataType) → s.join? t = some joined → t.join? s = some joined
  | .atom a m, t, joined, join => by
    by_cases unseen : a = .null
    · subst a
      rw [join_unseen_left] at join
      rw [join_unseen_right, Bool.or_comm]
      exact join
    · cases t with
      | atom b n =>
        by_cases later : b = .null
        · subst b
          rw [join_unseen_right] at join
          rw [join_unseen_left, Bool.or_comm]
          exact join
        · rw [join_atoms m n unseen later, Option.map_eq_some_iff] at join
          obtain ⟨kind, kinds, rfl⟩ := join
          rw [join_atoms n m later unseen, Atom.join_swap kinds, Bool.or_comm]
          rfl
      | _ => simp [join?, unseen] at join
  | .array a m, t, joined, join => by
    cases t with
    | atom b n =>
      obtain ⟨rfl, rfl⟩ := (join_atom_iff _ joined b n (by simp)).mp join
      rw [join_unseen_left, Bool.or_comm]
    | array b n =>
      simp only [join?, Option.map_eq_some_iff] at join ⊢
      obtain ⟨element, elements, rfl⟩ := join
      exact ⟨element, join_swap a b element elements, by rw [Bool.or_comm]⟩
    | _ => simp [join?] at join
  | .map ka va m, t, joined, join => by
    cases t with
    | atom b n =>
      obtain ⟨rfl, rfl⟩ := (join_atom_iff _ joined b n (by simp)).mp join
      rw [join_unseen_left, Bool.or_comm]
    | map kb vb n =>
      obtain ⟨key, held, keys, values, rfl⟩ := (join_maps_iff ka va kb vb joined m n).mp join
      refine (join_maps_iff kb vb ka va _ n m).mpr ⟨key, held, ?_, ?_, by rw [Bool.or_comm]⟩
      · exact join_swap ka kb key keys
      · exact join_swap va vb held values
    | _ => simp [join?] at join
  | .row fs m, t, joined, join => by
    cases t with
    | atom b n =>
      obtain ⟨rfl, rfl⟩ := (join_atom_iff _ joined b n (by simp)).mp join
      rw [join_unseen_left, Bool.or_comm]
    | row gs n =>
      simp only [join?, Option.map_eq_some_iff] at join ⊢
      obtain ⟨fields, parts, rfl⟩ := join
      exact ⟨fields, joinFields_swap fs gs fields parts, by rw [Bool.or_comm]⟩
    | _ => simp [join?] at join

theorem joinFields_swap : (fs gs joined : List Field) → joinFields? fs gs = some joined →
    joinFields? gs fs = some joined
  | [], gs, joined, join => by
    obtain ⟨rfl, rfl⟩ := (joinFields_nil_iff gs joined).mp join
    rfl
  | (name, s) :: fs, gs, joined, join => by
    obtain ⟨t, others, type, rest, rfl, first, parts, rfl⟩ :=
      (joinFields_cons_iff name s fs gs joined).mp join
    exact (joinFields_cons_iff name t others _ _).mpr ⟨s, fs, type, rest, rfl,
      join_swap s t type first, joinFields_swap fs others rest parts, rfl⟩

end

theorem join_comm (s t : DataType) : s.join? t = t.join? s := by
  apply Option.ext
  intro joined
  exact ⟨join_swap s t joined, join_swap t s joined⟩

/-! ## Associativity -/

theorem regroup_unseen_left {m : Bool} {b c left joined : DataType}
    (first : join? (.atom .null m) b = some left) (second : left.join? c = some joined) :
    ∃ right, b.join? c = some right ∧ join? (.atom .null m) right = some joined := by
  rw [join_unseen_left, Option.some.injEq] at first
  subst left
  rw [join_withNullable, Option.map_eq_some_iff] at second
  obtain ⟨right, join, rfl⟩ := second
  refine ⟨right, join, ?_⟩
  rw [join_unseen_left, nullable_join join, Bool.or_assoc]

theorem regroup_unseen_middle {n : Bool} {a c left joined : DataType}
    (first : a.join? (.atom .null n) = some left) (second : left.join? c = some joined) :
    ∃ right, join? (.atom .null n) c = some right ∧ a.join? right = some joined := by
  rw [join_unseen_right, Option.some.injEq] at first
  subst left
  refine ⟨_, join_unseen_left c n, ?_⟩
  rw [join_withNullable, join_comm] at second
  rw [join_comm, join_withNullable, ← second]
  congr 1
  funext type
  rw [Bool.or_comm (n || c.nullable), Bool.or_assoc]

theorem regroup_unseen_right {n : Bool} {a b left joined : DataType}
    (first : a.join? b = some left) (second : left.join? (.atom .null n) = some joined) :
    ∃ right, b.join? (.atom .null n) = some right ∧ a.join? right = some joined := by
  rw [join_unseen_right, Option.some.injEq] at second
  subst joined
  refine ⟨_, join_unseen_right b n, ?_⟩
  rw [join_comm, join_withNullable, join_comm, first, Option.map_some, nullable_join first,
    Bool.or_comm _ a.nullable, Bool.or_assoc]

mutual

theorem join_regroup : (a b c left joined : DataType) → a.join? b = some left →
    left.join? c = some joined → ∃ right, b.join? c = some right ∧ a.join? right = some joined
  | .atom k m, b, c, left, joined, first, second => by
    by_cases blank : k = .null
    · subst k
      exact regroup_unseen_left first second
    cases b with
    | atom l n =>
      by_cases hidden : l = .null
      · subst l
        exact regroup_unseen_middle first second
      rw [join_atoms m n blank hidden, Option.map_eq_some_iff] at first
      obtain ⟨kind, kinds, rfl⟩ := first
      have seen := Atom.join_ne_null blank kinds
      cases c with
      | atom h o =>
        by_cases last : h = .null
        · subst h
          exact regroup_unseen_right (by rw [join_atoms m n blank hidden, kinds]; rfl) second
        rw [join_atoms _ o seen last, Option.map_eq_some_iff] at second
        obtain ⟨widest, all, rfl⟩ := second
        obtain ⟨right, others, regrouped⟩ := Atom.join_regroup kinds all
        have other := Atom.join_ne_null hidden others
        refine ⟨.atom right (n || o), ?_, ?_⟩
        · rw [join_atoms n o hidden last, others]
          rfl
        · rw [join_atoms m _ blank other, regrouped, Bool.or_assoc]
          rfl
      | _ => simp [join?, seen] at second
    | _ => simp [join?, blank] at first
  | .array d m, b, c, left, joined, first, second => by
    cases b with
    | atom l n =>
      obtain ⟨rfl, _⟩ := (join_atom_iff _ left l n (by simp)).mp first
      exact regroup_unseen_middle first second
    | array e n =>
      have whole := first
      simp only [join?, Option.map_eq_some_iff] at first
      obtain ⟨element, elements, rfl⟩ := first
      cases c with
      | atom h o =>
        obtain ⟨rfl, _⟩ := (join_atom_iff _ joined h o (by simp)).mp second
        exact regroup_unseen_right whole second
      | array f o =>
        simp only [join?, Option.map_eq_some_iff] at second
        obtain ⟨widest, all, rfl⟩ := second
        obtain ⟨right, others, regrouped⟩ := join_regroup d e f element widest elements all
        refine ⟨.array right (n || o), ?_, ?_⟩
        · simp [join?, others]
        · simp [join?, regrouped, Bool.or_assoc]
      | _ => simp [join?] at second
    | _ => simp [join?] at first
  | .map ka va m, b, c, left, joined, first, second => by
    cases b with
    | atom l n =>
      obtain ⟨rfl, _⟩ := (join_atom_iff _ left l n (by simp)).mp first
      exact regroup_unseen_middle first second
    | map kb vb n =>
      have whole := first
      obtain ⟨key, held, keys, values, rfl⟩ := (join_maps_iff ka va kb vb left m n).mp first
      cases c with
      | atom h o =>
        obtain ⟨rfl, _⟩ := (join_atom_iff _ joined h o (by simp)).mp second
        exact regroup_unseen_right whole second
      | map kc vc o =>
        obtain ⟨widestKey, widest, allKeys, all, rfl⟩ :=
          (join_maps_iff key held kc vc joined _ o).mp second
        obtain ⟨rightKey, otherKeys, regroupedKey⟩ :=
          join_regroup ka kb kc key widestKey keys allKeys
        obtain ⟨right, others, regrouped⟩ := join_regroup va vb vc held widest values all
        refine ⟨.map rightKey right (n || o), ?_, ?_⟩
        · exact (join_maps_iff kb vb kc vc _ n o).mpr ⟨_, _, otherKeys, others, rfl⟩
        · refine (join_maps_iff ka va _ _ _ m _).mpr ⟨_, _, regroupedKey, regrouped, ?_⟩
          rw [Bool.or_assoc]
      | _ => simp [join?] at second
    | _ => simp [join?] at first
  | .row fs m, b, c, left, joined, first, second => by
    cases b with
    | atom l n =>
      obtain ⟨rfl, _⟩ := (join_atom_iff _ left l n (by simp)).mp first
      exact regroup_unseen_middle first second
    | row gs n =>
      have whole := first
      simp only [join?, Option.map_eq_some_iff] at first
      obtain ⟨fields, parts, rfl⟩ := first
      cases c with
      | atom h o =>
        obtain ⟨rfl, _⟩ := (join_atom_iff _ joined h o (by simp)).mp second
        exact regroup_unseen_right whole second
      | row hs o =>
        simp only [join?, Option.map_eq_some_iff] at second
        obtain ⟨widest, all, rfl⟩ := second
        obtain ⟨right, others, regrouped⟩ := joinFields_regroup fs gs hs fields widest parts all
        refine ⟨.row right (n || o), ?_, ?_⟩
        · simp [join?, others]
        · simp [join?, regrouped, Bool.or_assoc]
      | _ => simp [join?] at second
    | _ => simp [join?] at first

theorem joinFields_regroup : (fs gs hs left joined : List Field) →
    joinFields? fs gs = some left → joinFields? left hs = some joined →
      ∃ right, joinFields? gs hs = some right ∧ joinFields? fs right = some joined
  | [], gs, hs, left, joined, first, second => by
    obtain ⟨rfl, rfl⟩ := (joinFields_nil_iff gs left).mp first
    obtain ⟨rfl, rfl⟩ := (joinFields_nil_iff hs joined).mp second
    exact ⟨[], rfl, rfl⟩
  | (name, a) :: fs, gs, hs, left, joined, first, second => by
    obtain ⟨b, gs, type, rest, rfl, head, tail, rfl⟩ :=
      (joinFields_cons_iff name a fs gs left).mp first
    obtain ⟨c, hs, widest, all, rfl, last, ends, rfl⟩ :=
      (joinFields_cons_iff name type rest hs joined).mp second
    obtain ⟨right, others, regrouped⟩ := join_regroup a b c type widest head last
    obtain ⟨rights, otherFields, regroupedFields⟩ :=
      joinFields_regroup fs gs hs rest all tail ends
    refine ⟨(name, right) :: rights, ?_, ?_⟩
    · exact (joinFields_cons_iff name b gs _ _).mpr ⟨c, hs, right, rights, rfl, others,
        otherFields, rfl⟩
    · exact (joinFields_cons_iff name a fs _ _).mpr ⟨right, rights, widest, all, rfl, regrouped,
        regroupedFields, rfl⟩

end

theorem join_assoc (a b c : DataType) :
    (a.join? b).bind (·.join? c) = (b.join? c).bind (a.join? ·) := by
  apply Option.ext
  intro joined
  simp only [Option.bind_eq_some_iff]
  constructor
  · rintro ⟨left, first, second⟩
    exact join_regroup a b c left joined first second
  · rintro ⟨right, first, second⟩
    -- Read backwards, this is a join from the left as well.
    obtain ⟨left, others, regrouped⟩ :=
      join_regroup c b a right joined (join_swap b c right first) (join_swap a right joined second)
    exact ⟨left, join_swap b a left others, join_swap c left joined regrouped⟩

/-! ## Acceptance -/

theorem accepts_iff_join (type narrower : DataType) :
    type.accepts narrower = true ↔
      ∃ nullable, type.join? narrower = some (type.withNullable nullable) := by
  simp only [accepts]
  cases join : type.join? narrower with
  | none => simp
  | some joined =>
    simp only [decide_eq_true_eq, Option.some.injEq]
    constructor
    · intro same
      refine ⟨joined.nullable, ?_⟩
      rw [← same, withNullable_withNullable, withNullable_nullable]
    · rintro ⟨nullable, rfl⟩
      rw [withNullable_withNullable, withNullable_nullable]

theorem accepts_of_join {a b joined upper : DataType} (join : a.join? b = some joined)
    (accepted : upper.accepts joined = true) : upper.accepts a = true := by
  obtain ⟨nullable, absorbed⟩ := (accepts_iff_join upper joined).mp accepted
  have grouped := join_assoc upper a b
  rw [join, Option.bind_some, absorbed, Option.bind_eq_some_iff] at grouped
  obtain ⟨wide, first, second⟩ := grouped
  have again : wide.join? a = some wide := by
    have twice := join_assoc upper a a
    rw [join_self, first, Option.bind_some, Option.bind_some, first] at twice
    exact twice
  -- Joining `a` once more to `upper` with `a` and `b` changes nothing but the flag.
  have settled : wide.withNullable (nullable || a.nullable) = upper.withNullable nullable := by
    have regrouped := join_assoc wide b a
    rw [join_comm b a, ← join_assoc wide a b, second, again, Option.bind_some, Option.bind_some,
      second, join_withNullable, first, Option.map_some, Option.some.injEq] at regrouped
    exact regrouped
  refine (accepts_iff_join upper a).mpr ⟨wide.nullable, ?_⟩
  have same := congrArg (·.withNullable wide.nullable) settled
  simp only [withNullable_withNullable, withNullable_nullable] at same
  rw [first]
  exact congrArg some same

theorem accepts_join {a b upper : DataType} (first : upper.accepts a = true)
    (second : upper.accepts b = true) :
    ∃ joined, a.join? b = some joined ∧ upper.accepts joined = true := by
  obtain ⟨m, absorbed⟩ := (accepts_iff_join upper a).mp first
  obtain ⟨n, kept⟩ := (accepts_iff_join upper b).mp second
  have grouped := join_assoc upper a b
  rw [absorbed, Option.bind_some, join_withNullable, kept, Option.map_some,
    withNullable_withNullable, eq_comm, Option.bind_eq_some_iff] at grouped
  obtain ⟨joined, join, accepted⟩ := grouped
  exact ⟨joined, join, (accepts_iff_join upper joined).mpr ⟨_, accepted⟩⟩

/-- Joins are commutative, idempotent and associative, the unobserved type is
their unit, and they are least among the types that accept both parts. -/
theorem join_least_upper_bound :
    (∀ a b : DataType, a.join? b = b.join? a) ∧
      (∀ a : DataType, a.join? a = some a) ∧
      (∀ a : DataType, unobserved.join? a = some a ∧ a.join? unobserved = some a) ∧
      (∀ a b c : DataType, (a.join? b).bind (·.join? c) = (b.join? c).bind (·.join? a)) ∧
      (∀ a b c : DataType, (c.accepts a = true ∧ c.accepts b = true) ↔
        ∃ joined, a.join? b = some joined ∧ c.accepts joined = true) := by
  refine ⟨join_comm, join_self, ?_, ?_, ?_⟩
  · intro a
    exact ⟨unobserved_join a, by rw [join_comm, unobserved_join]⟩
  · intro a b c
    rw [join_assoc]
    congr 1
    funext joined
    exact join_comm a joined
  · intro a b c
    constructor
    · rintro ⟨first, second⟩
      exact accepts_join first second
    · rintro ⟨joined, join, accepted⟩
      exact ⟨accepts_of_join join accepted, accepts_of_join (join_swap a b joined join) accepted⟩

end DataType

end TableLoad

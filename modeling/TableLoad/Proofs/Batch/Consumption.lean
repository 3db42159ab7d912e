import Mathlib.Algebra.Order.BigOperators.Group.List
import TableLoad.Proofs.Batch.Rewriting

/-!
# What a decoder takes for what it gives

Element counts come from the bytes themselves and may claim anything.  But every value has a
tag of its own, so what is decoded has no more values in it than bytes were taken, and a
count beyond the bytes that are there is never met.
-/

set_option autoImplicit false

namespace TableLoad

namespace Value

mutual

/-- The value itself and all values inside it, at any depth. -/
def nodes : Value → Nat
  | .list items => itemsNodes items + 1
  | .map entries => pairsNodes entries + 1
  | .record (.positional _ items) => itemsNodes items + 1
  | .record (.named _ entries) => entriesNodes entries + 1
  | _ => 1

def itemsNodes : List Value → Nat
  | [] => 0
  | v :: rest => nodes v + itemsNodes rest

def pairsNodes : List (Value × Value) → Nat
  | [] => 0
  | (k, v) :: rest => nodes k + nodes v + pairsNodes rest

def entriesNodes : List (String × Value) → Nat
  | [] => 0
  | (_, v) :: rest => nodes v + entriesNodes rest

end

theorem nodes_pos (value : Value) : 1 ≤ value.nodes := by
  unfold nodes
  split <;> omega

theorem itemsNodes_eq (items : List Value) : itemsNodes items = (items.map nodes).sum := by
  induction items with
  | nil => rfl
  | cons item rest ih => rw [itemsNodes, ih, List.map_cons, List.sum_cons]

def pairNodes (entry : Value × Value) : Nat :=
  entry.1.nodes + entry.2.nodes

theorem pairsNodes_eq (entries : List (Value × Value)) :
    pairsNodes entries = (entries.map pairNodes).sum := by
  induction entries with
  | nil => rfl
  | cons entry rest ih => rw [pairsNodes, ih, List.map_cons, List.sum_cons, pairNodes]

end Value

namespace Batch

open Value

/-! ## Sizes that are paid for -/

/-- What the decoder reads is no larger than the bytes taken for it, those of the credit
included, which were taken before. -/
structure Paid {α : Type} (credit : Nat) (decoder : Decoder α) (size : α → Nat) : Prop where
  holds : ∀ {bytes value rest}, decoder bytes = .ok (value, rest) →
    ∃ taken, bytes = taken ++ rest ∧ size value ≤ credit + taken.length

namespace Paid

variable {α β : Type} {credit : Nat}

theorem pure {size : α → Nat} (value : α) (small : size value ≤ credit) :
    Paid credit (pure value : Decoder α) size := by
  constructor
  intro bytes result rest read
  cases read
  exact ⟨[], rfl, small⟩

theorem throw {size : α → Nat} (cause : Corruption) :
    Paid credit (throw cause : Decoder α) size := by
  constructor
  intro bytes result rest read
  cases read

/-- What a first decoder was paid for is the credit of the next one. -/
theorem bind {decoder : Decoder α} {next : α → Decoder β} {front : α → Nat} {size : β → Nat}
    (first : Paid credit decoder front) (later : ∀ value, Paid (front value) (next value) size) :
    Paid credit (decoder >>= next) size := by
  constructor
  intro bytes result rest read
  obtain ⟨value, left, early, late⟩ := read_of_bind read
  obtain ⟨taken, rfl, paid⟩ := first.holds early
  obtain ⟨more, rfl, whole⟩ := (later value).holds late
  refine ⟨taken ++ more, (List.append_assoc ..).symm, ?_⟩
  rw [List.length_append]
  omega

theorem credited {decoder : Decoder α} {size : α → Nat} (paid : Paid 0 decoder size)
    (credit : Nat) : Paid credit decoder fun value => credit + size value := by
  constructor
  intro bytes value rest read
  obtain ⟨taken, whole, small⟩ := paid.holds read
  exact ⟨taken, whole, by omega⟩

theorem mono {decoder : Decoder α} {size less : α → Nat} (paid : Paid credit decoder size)
    (smaller : ∀ value, less value ≤ size value) : Paid credit decoder less := by
  constructor
  intro bytes value rest read
  obtain ⟨taken, whole, small⟩ := paid.holds read
  exact ⟨taken, whole, Nat.le_trans (smaller value) small⟩

theorem many {decoder : Decoder α} {size : α → Nat} (each : Paid 0 decoder size) (count : Nat) :
    Paid 0 (decodeMany decoder count) fun items => (items.map size).sum := by
  induction count with
  | zero => exact pure [] (Nat.le_refl 0)
  | succ count ih =>
    apply each.bind
    intro first
    apply (ih.credited (size first)).bind
    intro others
    apply pure
    rw [List.map_cons, List.sum_cons]

theorem pair {decoder : Decoder Value} (each : Paid 0 decoder nodes) :
    Paid 0 (decodePair decoder) pairNodes := by
  apply each.bind
  intro key
  apply (each.credited key.nodes).bind
  intro value
  exact pure (key, value) (Nat.le_refl _)

end Paid

/-! ## Values -/

/-- The tag of a value without parts pays for it, whatever else it takes. -/
abbrev PaidByTag {α : Type} (decoder : Decoder α) : Prop :=
  Paid 1 decoder fun _ => 1

theorem paid_need (count : Nat) : PaidByTag (need count) := by
  constructor
  intro bytes value rest read
  unfold need at read
  split at read
  · rename_i split
    cases read
    obtain ⟨rfl, _⟩ := eq_append_of_splitExact split
    exact ⟨value, rfl, Nat.le_add_right 1 _⟩
  · cases read

theorem paid_length : PaidByTag decodeLength :=
  (paid_need 4).bind fun _ => Paid.pure _ (Nat.le_refl 1)

theorem paid_block : PaidByTag decodeBlock :=
  paid_length.bind paid_need

theorem paid_orFail {α : Type} (value? : Option α) (cause : Corruption) :
    PaidByTag (orFail value? cause) := by
  cases value? with
  | none => exact Paid.throw cause
  | some value => exact Paid.pure value (Nat.le_refl 1)

theorem paid_made {α : Type} {decoder : Decoder α} (make : α → Value)
    (paid : PaidByTag decoder) (leaf : ∀ content, (make content).nodes = 1) :
    Paid 1 (decoder >>= fun content => pure (make content)) nodes :=
  paid.bind fun content => Paid.pure (make content) (Nat.le_of_eq (leaf content))

theorem paid_checked {α β : Type} {decoder : Decoder α} (make? : α → Option β)
    (cause : α → Corruption) (make : β → Value) (paid : PaidByTag decoder)
    (leaf : ∀ found, (make found).nodes = 1) :
    Paid 1 (decoder >>= fun content =>
      orFail (make? content) (cause content) >>= fun found => pure (make found)) nodes :=
  paid.bind fun content => paid_made make (paid_orFail (make? content) (cause content)) leaf

theorem paid_string : Paid 1 decodeString nodes := by
  apply paid_block.bind
  intro content
  cases Utf8.decode content with
  | ok text => exact Paid.pure _ (Nat.le_refl 1)
  | error fault => exact Paid.throw _

theorem paid_leaf (tag : UInt8) (decode : Decoder Value) :
    announced? tag = some (.leaf decode) → Paid 1 decode nodes := by
  intro announced
  unfold announced? at announced
  -- One tag after the other; the tags of containers announce no leaf.
  repeat
    replace announced := ite_eq_iff.mp announced
    obtain ⟨_, found⟩ | ⟨_, announced⟩ := announced
    · cases found <;>
        first
          | exact Paid.pure null (Nat.le_refl 1)
          | exact paid_made _ (paid_need _) fun _ => rfl
          | exact paid_checked _ _ _ (paid_need _) fun _ => rfl
          | exact paid_made _ paid_block fun _ => rfl
          | exact paid_string
  cases announced

theorem paid_container {decoder : Decoder Value} (each : Paid 0 decoder nodes)
    (kind : Container) : Paid 1 (decodeContainer decoder kind) nodes := by
  cases kind with
  | list =>
    apply paid_length.bind
    intro count
    apply ((each.many count).credited 1).bind
    intro items
    apply Paid.pure
    rw [nodes, itemsNodes_eq, Nat.add_comm]
  | map =>
    apply paid_length.bind
    intro count
    apply ((each.pair.many count).credited 1).bind
    intro entries
    apply Paid.pure
    rw [nodes, pairsNodes_eq, Nat.add_comm]
  | row =>
    apply paid_length.bind
    intro count
    apply ((each.many count).credited 1).bind
    intro items
    apply Paid.pure
    rw [nodes, itemsNodes_eq, Nat.add_comm]

theorem paid_within (room : Nat) : Paid 0 (decodeWithin room) nodes := by
  induction room using Nat.strong_induction_on with
  | _ room ih =>
    constructor
    intro bytes value rest read
    obtain ⟨tag, content, rfl, after⟩ := read_after_tag read
    have paid : ∃ taken, content = taken ++ rest ∧ value.nodes ≤ 1 + taken.length := by
      rcases after with ⟨decode, announced, leaf⟩ | ⟨kind, less, _, rfl, parts⟩
      · exact (paid_leaf tag decode announced).holds leaf
      · exact (paid_container (ih less (Nat.lt_succ_self less)) kind).holds parts
    obtain ⟨taken, rfl, small⟩ := paid
    refine ⟨tag :: taken, rfl, ?_⟩
    rw [List.length_cons]
    omega

/-! ## Counts beyond the bytes that are there -/

theorem counted_many {α : Type} (decoder : Decoder α) (count : Nat) :
    Gives (decodeMany decoder count) fun items => items.length = count := by
  induction count with
  | zero => exact Gives.pure [] rfl
  | succ count ih =>
    apply Gives.after
    intro first
    apply ih.bind
    intro others counted
    exact Gives.pure _ (congrArg (· + 1) counted)

theorem count_le_of_many {α : Type} {decoder : Decoder α} {size : α → Nat}
    (each : Paid 0 decoder size) (positive : ∀ value, 1 ≤ size value) {count : Nat}
    {bytes rest : List UInt8} {items : List α}
    (read : decodeMany decoder count bytes = .ok (items, rest)) : count ≤ bytes.length := by
  obtain ⟨taken, rfl, paid⟩ := (each.many count).holds read
  have counted := (counted_many decoder count).holds _ items rest read
  have least := List.length_le_sum_of_one_le (items.map size) (by
    intro cost member
    obtain ⟨item, _, rfl⟩ := List.mem_map.mp member
    exact positive item)
  rw [List.length_map, counted] at least
  rw [List.length_append]
  omega

theorem pairNodes_pos (entry : Value × Value) : 1 ≤ pairNodes entry :=
  Nat.le_trans (nodes_pos entry.1) (Nat.le_add_right _ _)

theorem decodeLength_read (claimed content : List UInt8) (size : claimed.length = 4) :
    decodeLength (claimed ++ content) = .ok (ofBigEndian claimed, content) :=
  bind_of_ok _ (reads_need claimed 4 size content)

theorem claim_le_of_container {decoder : Decoder Value} (each : Paid 0 decoder nodes)
    (kind : Container) {claimed content rest : List UInt8} {value : Value}
    (size : claimed.length = 4)
    (read : decodeContainer decoder kind (claimed ++ content) = .ok (value, rest)) :
    ofBigEndian claimed ≤ content.length := by
  have front := decodeLength_read claimed content size
  cases kind with
  | list =>
    rw [decodeContainer, bind_of_ok _ front] at read
    obtain ⟨items, left, parts, _⟩ := read_of_bind read
    exact count_le_of_many each nodes_pos parts
  | map =>
    rw [decodeContainer, bind_of_ok _ front] at read
    obtain ⟨entries, left, parts, _⟩ := read_of_bind read
    exact count_le_of_many each.pair pairNodes_pos parts
  | row =>
    rw [decodeContainer, bind_of_ok _ front] at read
    obtain ⟨items, left, parts, _⟩ := read_of_bind read
    exact count_le_of_many each nodes_pos parts

theorem overclaimed_refused (room : Nat) (tag : UInt8) (kind : Container)
    (claimed content : List UInt8) (announced : announced? tag = some (.container kind))
    (size : claimed.length = 4) (beyond : content.length < ofBigEndian claimed) :
    ∃ cause, decodeWithin room (tag :: (claimed ++ content)) = .error cause := by
  cases outcome : decodeWithin room (tag :: (claimed ++ content)) with
  | error cause => exact ⟨cause, rfl⟩
  | ok found =>
    obtain ⟨value, rest⟩ := found
    obtain ⟨same, behind, whole, after⟩ := read_after_tag outcome
    cases whole
    rw [announced] at after
    rcases after with ⟨decode, leaf, _⟩ | ⟨other, less, same, _, parts⟩
    · cases leaf
    · cases same
      have enough := claim_le_of_container (paid_within less) kind size parts
      omega

/-! ## Frames -/

theorem paid_fields (index : Nat) (fields : List Field) :
    Paid 0 (decodeFields index fields) fun _ => fields.length := by
  induction fields with
  | nil => exact Paid.pure [] (Nat.le_refl 0)
  | cons field fields ih =>
    apply ((paid_within maxNesting).mono nodes_pos).bind
    intro value
    cases conforms field.2 value with
    | false => exact Paid.throw _
    | true =>
      apply (ih.credited 1).bind
      intro row
      apply Paid.pure
      rw [List.length_cons, Nat.add_comm]

theorem rows_le_of_decodeRows (fields : List Field) (columns : fields ≠ []) (count : Nat) :
    ∀ index bytes rows rest next, decodeRows fields count index bytes = (.ok (rows, rest), next) →
      rows.length + rest.length ≤ bytes.length := by
  have width : 1 ≤ fields.length := List.length_pos_iff.mpr columns
  induction count with
  | zero =>
    intro index bytes rows rest next read
    cases read
    exact Nat.le_of_eq (Nat.zero_add _)
  | succ count ih =>
    intro index bytes rows rest next read
    unfold decodeRows at read
    cases first : decodeFields index fields bytes with
    | error cause =>
      rw [first] at read
      cases read
    | ok found =>
      obtain ⟨values, left⟩ := found
      rw [first] at read
      obtain ⟨taken, rfl, paid⟩ := (paid_fields index fields).holds first
      cases later : decodeRows fields count (index + 1) left with
      | mk outcome after =>
        simp only [later] at read
        cases outcome with
        | error cause => cases read
        | ok others =>
          obtain ⟨others, end_⟩ := others
          cases read
          have bound := ih (index + 1) left others rest next later
          rw [List.length_cons, List.length_append]
          omega

theorem rows_le_of_decodeFrame (fields : List Field) (columns : fields ≠ []) (index : Nat)
    (content : List UInt8) (rows : List Row) (next : Nat)
    (read : decodeFrame fields index content = (.ok rows, next)) :
    rows.length ≤ content.length - 4 := by
  unfold decodeFrame at read
  split at read
  · cases read
  · rename_i found after decoded
    cases read
    have bound := rows_le_of_decodeRows fields columns _ index _ rows [] next decoded
    rwa [List.length_nil, Nat.add_zero, List.length_drop] at bound
  · cases read

theorem takeFrame_content {bytes rest content : List UInt8}
    (read : takeFrame bytes = .ok (some content, rest)) :
    ∃ length, bytes = length ++ (content ++ rest) ∧ length.length = 4 ∧
      ofBigEndian length = content.length ∧ 4 ≤ content.length := by
  rw [takeFrame_eq] at read
  split at read
  · cases read
  · rename_i length after front
    obtain ⟨rfl, size⟩ := eq_append_of_splitExact front
    split at read
    · cases read
    · split at read
      · cases read
      · rename_i bounds
        split at read
        · cases read
        · rename_i taken left back
          obtain ⟨rfl, counted⟩ := eq_append_of_splitExact back
          cases read
          simp only [Bool.or_eq_true, decide_eq_true_eq, not_or, Nat.not_lt] at bounds
          exact ⟨length, rfl, size, counted.symm, counted ▸ bounds.1⟩

/-- An accepted frame lies between its length and what the reader has left, and holds at
most a row for each of its bytes after the number of rows. -/
theorem Reader.rows_le_of_nextFrame (reader after : Reader) (rows : List Row)
    (columns : reader.schema.fields ≠ [])
    (step : reader.nextFrame = (.ok (some rows), after)) :
    ∃ length content, reader.rest = length ++ (content ++ after.rest) ∧ length.length = 4 ∧
      ofBigEndian length = content.length ∧ rows.length + 4 ≤ content.length := by
  cases unfinished : reader.finished with
  | true =>
    simp only [nextFrame, unfinished, if_true] at step
    cases step
  | false =>
    have frame := nextFrame_eq reader unfinished
    split at frame
    · rw [step] at frame
      cases frame
    · rw [step] at frame
      split at frame <;> cases frame
    · rename_i content rest taken
      obtain ⟨length, whole, size, counted, least⟩ := takeFrame_content taken
      rw [step] at frame
      split at frame
      · rename_i found next decoded
        cases frame
        have bound := rows_le_of_decodeFrame _ columns _ content rows next decoded
        exact ⟨length, content, whole, size, counted, by omega⟩
      · cases frame

/-- Decoding gives no more than it takes.  A value that is read has no more values in it
than bytes taken for it, of which there is one at least; a list, map or row at any depth is
refused if it claims more parts than bytes are left; and an accepted frame of a batch with
columns has four more bytes than rows or more. -/
theorem decoding_not_amplified :
    (∀ bytes value rest, decodeValue bytes = .ok (value, rest) →
      ∃ taken, bytes = taken ++ rest ∧ 1 ≤ taken.length ∧ value.nodes ≤ taken.length) ∧
    (∀ room tag kind claimed content, announced? tag = some (.container kind) →
      claimed.length = 4 → content.length < ofBigEndian claimed →
        ∃ cause, decodeWithin room (tag :: (claimed ++ content)) = .error cause) ∧
    ∀ (reader after : Reader) (rows : List Row), reader.schema.fields ≠ [] →
      reader.nextFrame = (.ok (some rows), after) →
        ∃ length content, reader.rest = length ++ (content ++ after.rest) ∧
          length.length = 4 ∧ ofBigEndian length = content.length ∧
          rows.length + 4 ≤ content.length := by
  refine ⟨?_, overclaimed_refused, Reader.rows_le_of_nextFrame⟩
  intro bytes value rest read
  obtain ⟨taken, whole, paid⟩ := (paid_within maxNesting).holds read
  have positive := nodes_pos value
  exact ⟨taken, whole, by omega, by omega⟩

def listedBytes : List UInt8 :=
  [13, 0, 0, 0, 2, 13, 0, 0, 0, 0, 1, 7, 9]

theorem small_claims_paid :
    (∃ taken, listedBytes = taken ++ [9] ∧ 1 ≤ taken.length ∧
      (Value.list [.list [], .bool true]).nodes ≤ taken.length) ∧
    (∃ cause, decodeWithin 5 (14 :: ([0, 0, 1, 0] ++ [0, 0])) = .error cause) ∧
    ∃ length content, looseFrames = length ++ (content ++ (frame 0 [] ++ (frame 1 [1, 0, 0] ++
      terminator))) ∧ length.length = 4 ∧ ofBigEndian length = content.length ∧
      1 + 4 ≤ content.length := by
  obtain ⟨values, claims, frames⟩ := decoding_not_amplified
  refine ⟨values listedBytes _ [9] rfl, ?_, ?_⟩
  · exact claims 5 14 .map [0, 0, 1, 0] [0, 0] rfl rfl (by decide)
  · exact frames ⟨flagSchema, looseFrames, 0, false⟩ ⟨flagSchema, _, 1, false⟩
      [[.bool true, .null]] (by decide) rfl

end Batch

end TableLoad

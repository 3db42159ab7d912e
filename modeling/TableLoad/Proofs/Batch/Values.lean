import TableLoad.Proofs.Batch.Nesting
import TableLoad.Proofs.Batch.Reading

/-!
# Values read back

The bytes of a value are read back as that value without the names inside it,
if the reader may nest as deep as the value does and no length in it is cut off.
Only a time off the clock is refused: it is written, but no reader makes it again.
-/

set_option autoImplicit false

namespace TableLoad.Batch

open Value

/-! ## Sizes -/

theorem encode_pos (value : Value) : 1 ≤ (encode value).length := by
  cases value with
  | record r => cases r <;> simp [encode]
  | _ => simp [encode]

theorem items_le_bytes (items : List Value) : items.length ≤ (encodeItems items).length := by
  induction items with
  | nil => exact Nat.le_refl 0
  | cons item rest ih =>
    have first := encode_pos item
    simp only [encodeItems, List.length_append, List.length_cons]
    omega

theorem pairs_le_bytes (entries : List (Value × Value)) :
    entries.length ≤ (encodePairs entries).length := by
  induction entries with
  | nil => exact Nat.le_refl 0
  | cons entry rest ih =>
    have first := encode_pos entry.1
    simp only [encodePairs, List.length_append, List.length_cons]
    omega

theorem encodeEntries_eq (entries : List (String × Value)) :
    encodeEntries entries = encodeItems (entries.map Prod.snd) := by
  induction entries with
  | nil => rfl
  | cons entry rest ih => simp [encodeEntries, encodeItems, ih]

theorem isTooLong_eq_false (n : Nat) : isTooLong n = false ↔ n < 2 ^ 32 := by
  simp [isTooLong]

theorem short_iff {count : Nat} {part : String} {inside : Option String} :
    (if isTooLong count then some part else inside) = none ↔
      count < 2 ^ 32 ∧ inside = none := by
  rw [← isTooLong_eq_false]
  cases isTooLong count <;> simp

mutual

theorem tooLong_of_small : (value : Value) → (encode value).length < 2 ^ 32 →
    tooLong? value = none
  | .string text, small => by
    simp only [encode, List.length_cons, List.length_append] at small
    rw [tooLong?, short_iff]
    exact ⟨by omega, rfl⟩
  | .bytes content, small => by
    simp only [encode, List.length_cons, List.length_append] at small
    rw [tooLong?, short_iff]
    exact ⟨by omega, rfl⟩
  | .list items, small => by
    simp only [encode, List.length_cons, List.length_append] at small
    have count := items_le_bytes items
    have inner := itemsTooLong_of_small items (by omega)
    rw [tooLong?, short_iff]
    exact ⟨by omega, inner⟩
  | .map entries, small => by
    simp only [encode, List.length_cons, List.length_append] at small
    have count := pairs_le_bytes entries
    have inner := pairsTooLong_of_small entries (by omega)
    rw [tooLong?, short_iff]
    exact ⟨by omega, inner⟩
  | .record (.positional _ items), small => by
    simp only [encode, List.length_cons, List.length_append] at small
    have count := items_le_bytes items
    have inner := itemsTooLong_of_small items (by omega)
    rw [tooLong?, short_iff]
    exact ⟨by omega, inner⟩
  | .record (.named _ entries), small => by
    simp only [encode, List.length_cons, List.length_append] at small
    have count := items_le_bytes (entries.map Prod.snd)
    rw [← encodeEntries_eq, List.length_map] at count
    have inner := entriesTooLong_of_small entries (by omega)
    rw [tooLong?, short_iff]
    exact ⟨by omega, inner⟩
  | .null, _ | .bool _, _ | .int _, _ | .long _, _ | .float _, _ | .double _, _
  | .decimal _, _ | .date _, _ | .time _, _ | .timestamp _, _ | .duration _, _ => by
    simp [tooLong?]

theorem itemsTooLong_of_small : (items : List Value) → (encodeItems items).length < 2 ^ 32 →
    itemsTooLong? items = none
  | [], _ => rfl
  | item :: rest, small => by
    simp only [encodeItems, List.length_append] at small
    have first := tooLong_of_small item (by omega)
    have later := itemsTooLong_of_small rest (by omega)
    simp [itemsTooLong?, first, later]

theorem pairsTooLong_of_small : (entries : List (Value × Value)) →
    (encodePairs entries).length < 2 ^ 32 → pairsTooLong? entries = none
  | [], _ => rfl
  | (key, value) :: rest, small => by
    simp only [encodePairs, List.length_append] at small
    have first := tooLong_of_small key (by omega)
    have second := tooLong_of_small value (by omega)
    have later := pairsTooLong_of_small rest (by omega)
    simp [pairsTooLong?, first, second, later]

theorem entriesTooLong_of_small : (entries : List (String × Value)) →
    (encodeEntries entries).length < 2 ^ 32 → entriesTooLong? entries = none
  | [], _ => rfl
  | (_, value) :: rest, small => by
    simp only [encodeEntries, List.length_append] at small
    have first := tooLong_of_small value (by omega)
    have later := entriesTooLong_of_small rest (by omega)
    simp [entriesTooLong?, first, later]

end

/-! ## Values that are too long -/

/-- What is kept is how the whole begins, and all of it unless a part is too long. -/
structure TornFrom (whole : List UInt8) (long? : Option String) (kept : List UInt8) : Prop where
  begins : kept <+: whole
  complete : long? = none → kept = whole

namespace TornFrom

theorem whole (bytes : List UInt8) (long? : Option String) : TornFrom bytes long? bytes :=
  ⟨List.prefix_rfl, fun _ => rfl⟩

theorem append {front back first second : List UInt8} {first? second? : Option String}
    (one : TornFrom front first? first) (two : TornFrom back second? second) :
    TornFrom (front ++ back) (first?.or second?)
      (first ++ if first?.isSome then [] else second) := by
  cases first? with
  | some part =>
    refine ⟨?_, fun impossible => by cases impossible⟩
    rw [Option.isSome_some, if_pos rfl, List.append_nil]
    exact one.begins.trans (List.prefix_append front back)
  | none =>
    obtain rfl := one.complete rfl
    refine ⟨(List.prefix_append_right_inj first).mpr two.begins, fun short => ?_⟩
    exact congrArg (first ++ ·) (two.complete short)

theorem counted {parts kept : List UInt8} {long? : Option String} (tag : UInt8) (count : Nat)
    (part : String) (inside : TornFrom parts long? kept) :
    TornFrom (tag :: (lengthBytes count ++ parts)) (if isTooLong count then some part else long?)
      (tag :: if isTooLong count then [] else lengthBytes count ++ kept) := by
  cases isTooLong count with
  | true =>
    exact ⟨List.cons_prefix_cons.mpr ⟨rfl, List.nil_prefix⟩, fun impossible => by cases impossible⟩
  | false =>
    refine ⟨List.cons_prefix_cons.mpr ⟨rfl, ?_⟩, fun short => ?_⟩
    · exact (List.prefix_append_right_inj _).mpr inside.begins
    · exact congrArg (fun rest => tag :: (lengthBytes count ++ rest)) (inside.complete short)

end TornFrom

mutual

theorem tornFrom_value : (value : Value) → TornFrom (encode value) (tooLong? value) (torn value)
  | .string text => by
    rw [torn, tooLong?]
    split
    · exact ⟨⟨_, rfl⟩, fun impossible => by cases impossible⟩
    · exact .whole _ _
  | .bytes content => by
    rw [torn, tooLong?]
    split
    · exact ⟨⟨_, rfl⟩, fun impossible => by cases impossible⟩
    · exact .whole _ _
  | .list items => .counted 13 items.length "list" (tornFrom_items items)
  | .map entries => .counted 14 entries.length "map" (tornFrom_pairs entries)
  | .record (.positional _ items) => .counted 15 items.length "row" (tornFrom_items items)
  | .record (.named _ entries) => .counted 15 entries.length "row" (tornFrom_entries entries)
  | .null | .bool _ | .int _ | .long _ | .float _ | .double _ | .decimal _ | .date _ | .time _
  | .timestamp _ | .duration _ => by
    simp only [torn]
    exact .whole _ _

theorem tornFrom_items : (items : List Value) →
    TornFrom (encodeItems items) (itemsTooLong? items) (tornItems items)
  | [] => .whole [] none
  | item :: rest => (tornFrom_value item).append (tornFrom_items rest)

theorem tornFrom_pairs : (entries : List (Value × Value)) →
    TornFrom (encodePairs entries) (pairsTooLong? entries) (tornPairs entries)
  | [] => .whole [] none
  | (key, value) :: rest =>
    (tornFrom_value key).append ((tornFrom_value value).append (tornFrom_pairs rest))

theorem tornFrom_entries : (entries : List (String × Value)) →
    TornFrom (encodeEntries entries) (entriesTooLong? entries) (tornEntries entries)
  | [] => .whole [] none
  | (_, value) :: rest => (tornFrom_value value).append (tornFrom_entries rest)

end

/-! ## Times off the clock -/

mutual

/-- Why a reader refuses a value for a time off the clock, the first one in it. -/
def offClock? : Value → Option Corruption
  | .time t => if t.IsOnClock then none else some (.timeOutOfRange t.seconds)
  | .timestamp t => if t.time.IsOnClock then none else some (.timestampOutOfRange t.epochSeconds)
  | .list items => itemsOffClock? items
  | .map entries => pairsOffClock? entries
  | .record (.positional _ items) => itemsOffClock? items
  | .record (.named _ entries) => entriesOffClock? entries
  | _ => none

def itemsOffClock? : List Value → Option Corruption
  | [] => none
  | v :: rest => (offClock? v).or (itemsOffClock? rest)

def pairsOffClock? : List (Value × Value) → Option Corruption
  | [] => none
  | (k, v) :: rest => (offClock? k).or ((offClock? v).or (pairsOffClock? rest))

def entriesOffClock? : List (String × Value) → Option Corruption
  | [] => none
  | (_, v) :: rest => (offClock? v).or (entriesOffClock? rest)

end

/-! ## Tags -/

theorem meets_leaf {tag : UInt8} {decode : Decoder Value} {content : List UInt8} {value : Value}
    {cause? : Option Corruption} (room : Nat) (announced : announced? tag = some (.leaf decode))
    (read : Meets decode content cause? value) :
    Meets (decodeWithin room) (tag :: content) cause? value := by
  intro rest
  rw [List.cons_append, decodeWithin, announced]
  exact read rest

theorem meets_container {tag : UInt8} {kind : Container} {content : List UInt8} {value : Value}
    {cause? : Option Corruption} (room : Nat)
    (announced : announced? tag = some (.container kind))
    (read : Meets (decodeContainer (decodeWithin room) kind) content cause? value) :
    Meets (decodeWithin (room + 1)) (tag :: content) cause? value := by
  intro rest
  rw [List.cons_append, decodeWithin, announced]
  exact read rest

theorem meets_many_cons {α : Type} {decodeOne : Decoder α} {front back : List UInt8} {first : α}
    {others : List α} {first? others? : Option Corruption} (count : Nat)
    (head : Meets decodeOne front first? first)
    (tail : Meets (decodeMany decodeOne count) back others? others) :
    Meets (decodeMany decodeOne (count + 1)) (front ++ back) (first?.or others?)
      (first :: others) :=
  head.bind (tail.map (Reads.pure _))

theorem meets_pair {decodeOne : Decoder Value} {front back : List UInt8} {key value : Value}
    {key? value? : Option Corruption} (first : Meets decodeOne front key? key)
    (second : Meets decodeOne back value? value) :
    Meets (decodePair decodeOne) (front ++ back) (key?.or value?) (key, value) :=
  first.bind (second.map (Reads.pure _))

/-! ## Values -/

mutual

theorem meets_value : (value : Value) → (room : Nat) → value.depth ≤ room →
    tooLong? value = none → Meets (decodeWithin room) (encode value) (offClock? value) value.unnamed
  | .null, room, _, _ => meets_leaf room rfl (Reads.pure Value.null)
  | .bool b, room, _, _ => meets_leaf room rfl (reads_bool b)
  | .int n, room, _, _ => meets_leaf room rfl (reads_int n)
  | .long n, room, _, _ => meets_leaf room rfl (reads_long n)
  | .float x, room, _, _ => meets_leaf room rfl (reads_float x)
  | .double x, room, _, _ => meets_leaf room rfl (reads_double x)
  | .decimal d, room, _, _ => meets_leaf room rfl (reads_decimal d)
  | .string text, room, _, short => by
    simp only [tooLong?, short_iff] at short
    exact meets_leaf room rfl (reads_string text short.1)
  | .bytes content, room, _, short => by
    simp only [tooLong?, short_iff] at short
    exact meets_leaf room rfl (reads_bytes content short.1)
  | .date d, room, _, _ => meets_leaf room rfl (reads_date d)
  | .time t, room, _, _ => meets_leaf room rfl (meets_time t)
  | .timestamp t, room, _, _ => meets_leaf room rfl (meets_timestamp t)
  | .duration d, room, _, _ => meets_leaf room rfl (reads_duration d)
  -- A container takes one level of the room, and its parts have what is left.
  | .list items, 0, shallow, _ => by simp [depth] at shallow
  | .list items, room + 1, shallow, short => by
    simp only [tooLong?, short_iff] at short
    simp only [depth] at shallow
    have count := reads_length _ short.1
    have inner := meets_items items room (by omega) short.2
    exact meets_container room rfl (Meets.bind count (inner.map (Reads.pure _)))
  | .map entries, 0, shallow, _ => by simp [depth] at shallow
  | .map entries, room + 1, shallow, short => by
    simp only [tooLong?, short_iff] at short
    simp only [depth] at shallow
    have count := reads_length _ short.1
    have inner := meets_pairs entries room (by omega) short.2
    exact meets_container room rfl (Meets.bind count (inner.map (Reads.pure _)))
  | .record (.positional _ items), 0, shallow, _ => by simp [depth] at shallow
  | .record (.positional _ items), room + 1, shallow, short => by
    simp only [tooLong?, short_iff] at short
    simp only [depth] at shallow
    have count := reads_length _ short.1
    have inner := meets_items items room (by omega) short.2
    exact meets_container room rfl (Meets.bind count (inner.map (Reads.pure _)))
  | .record (.named _ entries), 0, shallow, _ => by simp [depth] at shallow
  | .record (.named _ entries), room + 1, shallow, short => by
    simp only [tooLong?, short_iff] at short
    simp only [depth] at shallow
    have count := reads_length _ short.1
    have inner := meets_entries entries room (by omega) short.2
    exact meets_container room rfl (Meets.bind count (inner.map (Reads.pure _)))

theorem meets_items : (items : List Value) → (room : Nat) → itemsDepth items ≤ room →
    itemsTooLong? items = none →
    Meets (decodeMany (decodeWithin room) items.length) (encodeItems items) (itemsOffClock? items)
      (unnamedItems items)
  | [], _, _, _ => Reads.pure []
  | item :: rest, room, shallow, short => by
    simp only [itemsTooLong?, Option.or_eq_none_iff] at short
    simp only [itemsDepth] at shallow
    have first := meets_value item room (by omega) short.1
    have later := meets_items rest room (by omega) short.2
    exact meets_many_cons _ first later

theorem meets_pairs : (entries : List (Value × Value)) → (room : Nat) →
    pairsDepth entries ≤ room → pairsTooLong? entries = none →
    Meets (decodeMany (decodePair (decodeWithin room)) entries.length) (encodePairs entries)
      (pairsOffClock? entries) (unnamedPairs entries)
  | [], _, _, _ => Reads.pure []
  | (key, value) :: rest, room, shallow, short => by
    simp only [pairsTooLong?, Option.or_eq_none_iff] at short
    simp only [pairsDepth] at shallow
    have first := meets_value key room (by omega) short.1
    have second := meets_value value room (by omega) short.2.1
    have later := meets_pairs rest room (by omega) short.2.2
    have both := meets_many_cons _ (meets_pair first second) later
    rwa [List.append_assoc, Option.or_assoc] at both

theorem meets_entries : (entries : List (String × Value)) → (room : Nat) →
    entriesDepth entries ≤ room → entriesTooLong? entries = none →
    Meets (decodeMany (decodeWithin room) entries.length) (encodeEntries entries)
      (entriesOffClock? entries) (unnamedEntries entries)
  | [], _, _, _ => Reads.pure []
  | (_, value) :: rest, room, shallow, short => by
    simp only [entriesTooLong?, Option.or_eq_none_iff] at short
    simp only [entriesDepth] at shallow
    have first := meets_value value room (by omega) short.1
    have later := meets_entries rest room (by omega) short.2
    exact meets_many_cons _ first later

end

end TableLoad.Batch

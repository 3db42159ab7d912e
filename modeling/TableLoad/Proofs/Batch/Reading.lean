import TableLoad.Batch.Decode
import TableLoad.Batch.Encode
import TableLoad.Proofs.Calendar.Clock
import TableLoad.Proofs.Value.Decimal

/-!
# Reading from the front

A decoder reads some bytes as a value when it does so whatever follows them, and it may
refuse them whatever follows.  Decoders that run one after the other read what they read
one after the other, up to the first refusal; with it the content of every kind of value
without parts is read back, unless a time in it is off the clock.
-/

set_option autoImplicit false

namespace TableLoad

/-! ## Numbers in bytes -/

namespace Batch

theorem ofBigEndian_bigEndian (width n : Nat) (small : n < 256 ^ width) :
    ofBigEndian (bigEndian width n) = n := by
  induction width generalizing n with
  | zero =>
    have zero : n = 0 := by simpa using small
    simp [bigEndian, ofBigEndian, zero]
  | succ width ih =>
    have quotient : n / 256 < 256 ^ width := by
      rw [Nat.div_lt_iff_lt_mul (by decide)]
      simpa [Nat.pow_succ] using small
    rw [bigEndian, ofBigEndian_append, ih _ quotient]
    simp only [UInt8.toNat_ofNat']
    omega

theorem bigEndian_mod (width n : Nat) : bigEndian width (n % 256 ^ width) = bigEndian width n := by
  induction width generalizing n with
  | zero => rfl
  | succ width ih =>
    have low : UInt8.ofNat (n % 256 ^ (width + 1)) = UInt8.ofNat n := by
      apply UInt8.toNat_inj.mp
      rw [UInt8.toNat_ofNat', UInt8.toNat_ofNat', Nat.pow_succ, Nat.mul_comm]
      exact Nat.mod_mul_right_mod n 256 (256 ^ width)
    have high : n % 256 ^ (width + 1) / 256 = n / 256 % 256 ^ width := by
      rw [Nat.pow_succ, Nat.mul_comm]
      exact Nat.mod_mul_right_div_self n 256 (256 ^ width)
    rw [bigEndian, bigEndian, low, high, ih]

theorem pow_256 (width : Nat) : 256 ^ width = 2 ^ (8 * width) := by
  rw [Nat.pow_mul]

theorem signedBytes_length (width : Nat) (n : Int) : (signedBytes width n).length = width :=
  bigEndian_length _ _

theorem ofSignedBytes_eq (bytes : List UInt8) :
    ofSignedBytes bytes =
      if 2 * ofBigEndian bytes < 2 ^ (8 * bytes.length) then (ofBigEndian bytes : Int)
      else ofBigEndian bytes - 2 ^ (8 * bytes.length) :=
  rfl

theorem ofSignedBytes_signedBytes (width : Nat) (n : Int) (low : -2 ^ (8 * width) ≤ 2 * n)
    (high : 2 * n < 2 ^ (8 * width)) : ofSignedBytes (signedBytes width n) = n := by
  have positive : (0 : Int) < 2 ^ (8 * width) := Int.pow_pos (by decide)
  have least := Int.emod_nonneg n (Int.ne_of_gt positive)
  have below := Int.emod_lt_of_pos n positive
  have bounded : (n % 2 ^ (8 * width)).toNat < 256 ^ width := by
    rw [pow_256, Int.toNat_lt least]
    simpa using below
  have number : ofBigEndian (signedBytes width n) = (n % 2 ^ (8 * width)).toNat :=
    ofBigEndian_bigEndian width _ bounded
  have size : (2 ^ (8 * width) : Nat) = (2 ^ (8 * width) : Int) := by simp
  have whole : ((n % 2 ^ (8 * width)).toNat : Int) = n % 2 ^ (8 * width) :=
    Int.toNat_of_nonneg least
  rw [ofSignedBytes_eq, number, signedBytes_length]
  by_cases negative : n < 0
  · have shifted : n % 2 ^ (8 * width) = n + 2 ^ (8 * width) := by
      rw [← Int.add_emod_right]
      exact Int.emod_eq_of_lt (by omega) (by omega)
    rw [if_neg (by omega)]
    omega
  · have same : n % 2 ^ (8 * width) = n := Int.emod_eq_of_lt (by omega) (by omega)
    rw [if_pos (by omega)]
    omega

end Batch

/-! ## Decoders -/

namespace Batch

open Calendar

theorem bind_of_ok {α β : Type} {decoder : Decoder α} {bytes rest : List UInt8} {value : α}
    (next : α → Decoder β) (read : decoder bytes = .ok (value, rest)) :
    (decoder >>= next) bytes = next value rest := by
  show (decoder bytes >>= fun result => next result.1 result.2) = _
  rw [read]
  rfl

theorem bind_of_error {α β : Type} {decoder : Decoder α} {bytes : List UInt8} {cause : Corruption}
    (next : α → Decoder β) (failed : decoder bytes = .error cause) :
    (decoder >>= next) bytes = .error cause := by
  show (decoder bytes >>= fun result => next result.1 result.2) = _
  rw [failed]
  rfl

/-- Whatever follows the bytes, the decoder refuses them if there is a cause, and else
reads them as the value and leaves what follows. -/
def Meets {α : Type} (decoder : Decoder α) (bytes : List UInt8) (cause? : Option Corruption)
    (value : α) : Prop :=
  ∀ rest, decoder (bytes ++ rest) = cause?.elim (.ok (value, rest)) .error

theorem Meets.bind {α β : Type} {decoder : Decoder α} {next : α → Decoder β}
    {front back : List UInt8} {value : α} {result : β} {first? second? : Option Corruption}
    (first : Meets decoder front first? value) (second : Meets (next value) back second? result) :
    Meets (decoder >>= next) (front ++ back) (first?.or second?) result := by
  intro rest
  have read := first (back ++ rest)
  rw [List.append_assoc]
  cases first? with
  | none => exact (bind_of_ok next read).trans (second rest)
  | some cause => exact bind_of_error next read

theorem Meets.map {α β : Type} {decoder : Decoder α} {bytes : List UInt8} {value : α}
    {next : α → Decoder β} {result : β} {cause? : Option Corruption}
    (read : Meets decoder bytes cause? value) (last : Meets (next value) [] none result) :
    Meets (decoder >>= next) bytes cause? result := by
  have both := read.bind last
  rwa [List.append_nil, Option.or_none] at both

def Reads {α : Type} (decoder : Decoder α) (bytes : List UInt8) (value : α) : Prop :=
  Meets decoder bytes none value

theorem Reads.pure {α : Type} (value : α) : Reads (pure value) [] value := by
  intro rest
  rfl

theorem Reads.bind {α β : Type} {decoder : Decoder α} {next : α → Decoder β}
    {front back : List UInt8} {value : α} {result : β} (first : Reads decoder front value)
    (second : Reads (next value) back result) : Reads (decoder >>= next) (front ++ back) result :=
  Meets.bind first second

theorem Reads.check {α β : Type} {decoder : Decoder α} {bytes : List UInt8} {value : α}
    {next : α → Decoder β} {result : β} {cause? : Option Corruption}
    (read : Reads decoder bytes value) (last : Meets (next value) [] cause? result) :
    Meets (decoder >>= next) bytes cause? result := by
  have both := Meets.bind read last
  rwa [List.append_nil] at both

theorem Reads.map {α β : Type} {decoder : Decoder α} {bytes : List UInt8} {value : α}
    {next : α → Decoder β} {result : β} (read : Reads decoder bytes value)
    (last : Reads (next value) [] result) : Reads (decoder >>= next) bytes result :=
  Meets.map read last

theorem reads_need (content : List UInt8) (count : Nat) (size : content.length = count) :
    Reads (need count) content content := by
  intro rest
  subst size
  simp [need, splitExact_append]

theorem reads_orFail {α : Type} (value? : Option α) (value : α) (cause : Corruption)
    (found : value? = some value) : Reads (orFail value? cause) [] value := by
  subst found
  exact Reads.pure value

theorem meets_orFail {α : Type} {value? : Option α} {value : α} {condition : Prop}
    [Decidable condition] (cause : Corruption)
    (found : value? = if condition then some value else none) :
    Meets (orFail value? cause) [] (if condition then none else some cause) value := by
  subst found
  by_cases holds : condition
  · rw [if_pos holds, if_pos holds]
    exact Reads.pure value
  · rw [if_neg holds, if_neg holds]
    intro rest
    rfl

theorem reads_length (n : Nat) (small : n < 2 ^ 32) : Reads decodeLength (lengthBytes n) n := by
  have read := reads_need (lengthBytes n) 4 (bigEndian_length 4 n)
  refine read.map ?_
  rw [lengthBytes, ofBigEndian_bigEndian 4 n small]
  exact Reads.pure n

theorem reads_block (content : List UInt8) (small : content.length < 2 ^ 32) :
    Reads decodeBlock (lengthBytes content.length ++ content) content :=
  (reads_length _ small).bind (reads_need content _ rfl)

/-! ## Values without parts -/

theorem reads_bool (b : Bool) : Reads decodeBool [if b then 1 else 0] (.bool b) := by
  refine (reads_need _ 1 rfl).map ?_
  cases b <;> exact Reads.pure _

theorem reads_int (n : Int32) : Reads decodeInt (signedBytes 4 n.toInt) (.int n) := by
  refine (reads_need _ 4 (signedBytes_length 4 _)).map ?_
  have low := n.le_toInt
  have high := n.toInt_lt
  rw [ofSignedBytes_signedBytes 4 n.toInt (by omega) (by omega), Int32.ofInt_toInt]
  exact Reads.pure _

theorem reads_long (n : Int64) : Reads decodeLong (signedBytes 8 n.toInt) (.long n) := by
  refine (reads_need _ 8 (signedBytes_length 8 _)).map ?_
  have low := n.le_toInt
  have high := n.toInt_lt
  rw [ofSignedBytes_signedBytes 8 n.toInt (by omega) (by omega), Int64.ofInt_toInt]
  exact Reads.pure _

theorem reads_float (x : Number.Binary32) :
    Reads decodeFloat (bigEndian 4 x.bits.toNat) (.float x) := by
  refine (reads_need _ 4 (bigEndian_length 4 _)).map ?_
  rw [ofBigEndian_bigEndian 4 x.bits.toNat x.bits.toNat_lt, UInt32.ofNat_toNat]
  exact Reads.pure _

theorem reads_double (x : Number.Binary64) :
    Reads decodeDouble (bigEndian 8 x.bits.toNat) (.double x) := by
  refine (reads_need _ 8 (bigEndian_length 8 _)).map ?_
  rw [ofBigEndian_bigEndian 8 x.bits.toNat x.bits.toNat_lt, UInt64.ofNat_toNat]
  exact Reads.pure _

theorem reads_decimal (d : Decimal) :
    Reads decodeDecimal (signedBytes 16 d.unscaled ++ [d.scale]) (.decimal d) := by
  have front := signedBytes_length 16 d.unscaled
  obtain ⟨low, high⟩ := (isUnscaled_iff d.unscaled).mp d.inRange
  refine (reads_need _ 17 (by simp [front])).map ?_
  rw [List.drop_left' front, List.take_left' front,
    ofSignedBytes_signedBytes 16 d.unscaled (by omega) (by omega)]
  refine (reads_orFail _ d _ ?_).map (Reads.pure _)
  simp [ofBigEndian, Decimal.of?, d.inRange]

theorem reads_string (text : String) (small : (Utf8.encode text).length < 2 ^ 32) :
    Reads decodeString (lengthBytes (Utf8.encode text).length ++ Utf8.encode text)
      (.string text) := by
  refine (reads_block _ small).map ?_
  rw [Utf8.decode_encode]
  exact Reads.pure _

theorem reads_bytes (content : List UInt8) (small : content.length < 2 ^ 32) :
    Reads decodeBytes (lengthBytes content.length ++ content) (.bytes content) :=
  (reads_block content small).map (Reads.pure _)

theorem reads_date (d : Date) : Reads decodeDate (signedBytes 4 d.number) (.date d) := by
  refine (reads_need _ 4 (signedBytes_length 4 _)).map ?_
  obtain ⟨low, high⟩ := d.inRange
  unfold firstDay at low
  unfold lastDay at high
  rw [ofSignedBytes_signedBytes 4 d.number (by omega) (by omega)]
  exact (reads_orFail _ d _ d.ofNumber_number).map (Reads.pure _)

theorem meets_time (t : TimeOfDay) :
    Meets decodeTime (bigEndian 4 t.seconds ++ bigEndian 4 t.nanos)
      (if t.IsOnClock then none else some (.timeOutOfRange t.seconds)) (.time t) := by
  have front := bigEndian_length 4 t.seconds
  have back := bigEndian_length 4 t.nanos
  obtain ⟨day, second⟩ := t.valid
  unfold nanosPerSecond at second
  refine (reads_need _ 8 (by simp [front, back])).check ?_
  rw [List.drop_left' front, List.take_left' front, ofBigEndian_bigEndian 4 _ (by omega),
    ofBigEndian_bigEndian 4 _ (by omega)]
  exact (meets_orFail _ t.of_parts).map (Reads.pure _)

theorem meets_timestamp (t : Timestamp) :
    Meets decodeTimestamp (signedBytes 8 t.epochSeconds ++ bigEndian 4 t.time.nanos)
      (if t.time.IsOnClock then none else some (.timestampOutOfRange t.epochSeconds))
      (.timestamp t) := by
  have front := signedBytes_length 8 t.epochSeconds
  have back := bigEndian_length 4 t.time.nanos
  obtain ⟨low, high⟩ := t.date.inRange
  obtain ⟨day, second⟩ := t.time.valid
  have seconds : t.epochSeconds = (t.date.number - epochDay) * 86400 + t.time.seconds := rfl
  unfold firstDay at low
  unfold lastDay at high
  unfold epochDay at seconds
  unfold nanosPerSecond at second
  refine (reads_need _ 12 (by simp [front, back])).check ?_
  rw [List.drop_left' front, List.take_left' front,
    ofSignedBytes_signedBytes 8 _ (by omega) (by omega), ofBigEndian_bigEndian 4 _ (by omega)]
  exact (meets_orFail _ t.ofEpoch_parts).map (Reads.pure _)

theorem reads_duration (d : Duration) :
    Reads decodeDuration (signedBytes 8 d.wholeSeconds ++ signedBytes 4 d.subsecond)
      (.duration d) := by
  have front := signedBytes_length 8 d.wholeSeconds
  have back := signedBytes_length 4 d.subsecond
  obtain ⟨⟨low, high⟩, least, most⟩ := d.parts_bounds
  refine (reads_need _ 12 (by simp [front, back])).map ?_
  rw [List.drop_left' front, List.take_left' front,
    ofSignedBytes_signedBytes 8 _ (by omega) (by omega),
    ofSignedBytes_signedBytes 4 _ (by omega) (by omega)]
  exact (reads_orFail _ d _ d.ofParts_parts).map (Reads.pure _)

end Batch

end TableLoad

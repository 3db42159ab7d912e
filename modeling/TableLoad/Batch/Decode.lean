import TableLoad.Batch.Bytes
import TableLoad.Batch.Error
import TableLoad.Value.Basic

/-!
# Decoding values

Reads one value from the front of some bytes.  Lists, maps and rows may be
nested up to a limit; an element count is never trusted beyond the bytes that
are there.
-/

set_option autoImplicit false

namespace TableLoad.Batch

open Calendar Number

/-- Reads something from the front of the bytes and leaves the rest. -/
abbrev Decoder := StateT (List UInt8) (Except Corruption)

def need (count : Nat) : Decoder (List UInt8) := fun bytes =>
  match splitExact count bytes with
  | some split => .ok split
  | none => .error (.shortValue count bytes.length)

def decodeLength : Decoder Nat := do
  return ofBigEndian (← need 4)

/-- Bytes that follow their length. -/
def decodeBlock : Decoder (List UInt8) := do
  need (← decodeLength)

def orFail {α : Type} (value? : Option α) (cause : Corruption) : Decoder α :=
  match value? with
  | some value => return value
  | none => throw cause

def decodeBool : Decoder Value := do
  return .bool (ofBigEndian (← need 1) != 0)

def decodeInt : Decoder Value := do
  return .int (Int32.ofInt (ofSignedBytes (← need 4)))

def decodeLong : Decoder Value := do
  return .long (Int64.ofInt (ofSignedBytes (← need 8)))

def decodeFloat : Decoder Value := do
  return .float ⟨UInt32.ofNat (ofBigEndian (← need 4))⟩

def decodeDouble : Decoder Value := do
  return .double ⟨UInt64.ofNat (ofBigEndian (← need 8))⟩

/-- Sixteen bytes always hold an unscaled integer. -/
def decodeDecimal : Decoder Value := do
  let content ← need 17
  let scale := UInt8.ofNat (ofBigEndian (content.drop 16))
  let d ← orFail (Decimal.of? (ofSignedBytes (content.take 16)) scale) (.shortValue 17 0)
  return .decimal d

def decodeString : Decoder Value := do
  match Utf8.decode (← decodeBlock) with
  | .ok text => return .string text
  | .error fault => throw (.invalidText fault)

def decodeBytes : Decoder Value := do
  return .bytes (← decodeBlock)

def decodeDate : Decoder Value := do
  let days := ofSignedBytes (← need 4)
  return .date (← orFail (Date.ofNumber? days) (.dateOutOfRange days))

def decodeTime : Decoder Value := do
  let content ← need 8
  let seconds := ofBigEndian (content.take 4)
  let nanos := ofBigEndian (content.drop 4)
  return .time (← orFail (TimeOfDay.of? seconds nanos) (.timeOutOfRange seconds))

def decodeTimestamp : Decoder Value := do
  let content ← need 12
  let seconds := ofSignedBytes (content.take 8)
  let nanos := ofBigEndian (content.drop 8)
  return .timestamp (← orFail (Timestamp.ofEpoch? seconds nanos) (.timestampOutOfRange seconds))

def decodeDuration : Decoder Value := do
  let content ← need 12
  let seconds := ofSignedBytes (content.take 8)
  let nanos := ofSignedBytes (content.drop 8)
  return .duration (← orFail (Duration.ofParts? seconds nanos) (.durationOutOfRange seconds))

def decodeMany {α : Type} (decodeOne : Decoder α) : (count : Nat) → Decoder (List α)
  | 0 => return []
  | count + 1 => do
    let first ← decodeOne
    return first :: (← decodeMany decodeOne count)

def decodePair (decodeOne : Decoder Value) : Decoder (Value × Value) := do
  let key ← decodeOne
  let value ← decodeOne
  return (key, value)

inductive Container
  | list
  | map
  | row
deriving DecidableEq, Repr

/-- What a tag byte announces. -/
inductive Announced
  | leaf (decode : Decoder Value)
  | container (kind : Container)

def announced? (tag : UInt8) : Option Announced :=
  if tag = 0 then some (.leaf (return .null))
  else if tag = 1 then some (.leaf decodeBool)
  else if tag = 2 then some (.leaf decodeInt)
  else if tag = 3 then some (.leaf decodeLong)
  else if tag = 4 then some (.leaf decodeFloat)
  else if tag = 5 then some (.leaf decodeDouble)
  else if tag = 6 then some (.leaf decodeDecimal)
  else if tag = 7 then some (.leaf decodeString)
  else if tag = 8 then some (.leaf decodeBytes)
  else if tag = 9 then some (.leaf decodeDate)
  else if tag = 10 then some (.leaf decodeTime)
  else if tag = 11 then some (.leaf decodeTimestamp)
  else if tag = 12 then some (.leaf decodeDuration)
  else if tag = 13 then some (.container .list)
  else if tag = 14 then some (.container .map)
  else if tag = 15 then some (.container .row)
  else none

/-- The content of a container whose parts are read by `decodeOne`. -/
def decodeContainer (decodeOne : Decoder Value) : Container → Decoder Value
  | .list => do
    return .list (← decodeMany decodeOne (← decodeLength))
  | .map => do
    return .map (← decodeMany (decodePair decodeOne) (← decodeLength))
  | .row => do
    return .record (.positional .row (← decodeMany decodeOne (← decodeLength)))

/-- One value that may nest `room` containers. -/
def decodeWithin : (room : Nat) → Decoder Value
  | _, [] => .error (.shortValue 1 0)
  | room, tag :: rest =>
    match announced? tag with
    | none => .error (.unknownTag tag)
    | some (.leaf decode) => decode rest
    | some (.container kind) =>
      match room with
      | 0 => .error .nestedTooDeep
      | room + 1 => decodeContainer (decodeWithin room) kind rest

def decodeValue : Decoder Value :=
  decodeWithin maxNesting

end TableLoad.Batch

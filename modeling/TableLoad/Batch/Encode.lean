import TableLoad.Batch.Bytes
import TableLoad.Batch.Error
import TableLoad.Value.Basic

/-!
# Encoding values

Every value is written as a tag byte and its content.  Texts, byte strings,
lists, maps and rows carry their length in four bytes.  A record is written as
its values alone.
-/

set_option autoImplicit false

namespace TableLoad.Batch

def lengthBytes (n : Nat) : List UInt8 :=
  bigEndian 4 n

mutual

def encode : Value → List UInt8
  | .null => [0]
  | .bool b => [1, if b then 1 else 0]
  | .int n => 2 :: signedBytes 4 n.toInt
  | .long n => 3 :: signedBytes 8 n.toInt
  | .float x => 4 :: bigEndian 4 x.bits.toNat
  | .double x => 5 :: bigEndian 8 x.bits.toNat
  | .decimal d => 6 :: (signedBytes 16 d.unscaled ++ [d.scale])
  | .string text => 7 :: (lengthBytes (Utf8.encode text).length ++ Utf8.encode text)
  | .bytes content => 8 :: (lengthBytes content.length ++ content)
  | .date d => 9 :: signedBytes 4 d.number
  | .time t => 10 :: (bigEndian 4 t.seconds ++ bigEndian 4 t.nanos)
  | .timestamp t => 11 :: (signedBytes 8 t.epochSeconds ++ bigEndian 4 t.time.nanos)
  | .duration d => 12 :: (signedBytes 8 d.wholeSeconds ++ signedBytes 4 d.subsecond)
  | .list items => 13 :: (lengthBytes items.length ++ encodeItems items)
  | .map entries => 14 :: (lengthBytes entries.length ++ encodePairs entries)
  | .record (.positional _ items) => 15 :: (lengthBytes items.length ++ encodeItems items)
  | .record (.named _ entries) => 15 :: (lengthBytes entries.length ++ encodeEntries entries)

def encodeItems : List Value → List UInt8
  | [] => []
  | v :: rest => encode v ++ encodeItems rest

def encodePairs : List (Value × Value) → List UInt8
  | [] => []
  | (k, v) :: rest => encode k ++ (encode v ++ encodePairs rest)

def encodeEntries : List (String × Value) → List UInt8
  | [] => []
  | (_, v) :: rest => encode v ++ encodeEntries rest

end

/-- The length does not fit in four bytes. -/
def isTooLong (n : Nat) : Bool :=
  Nat.pow 2 32 ≤ n

mutual

/-- The first part of a value whose length does not fit the encoding. -/
def tooLong? : Value → Option String
  | .string text =>
    if isTooLong (Utf8.encode text).length then some "string value" else none
  | .bytes content => if isTooLong content.length then some "bytes value" else none
  | .list items => if isTooLong items.length then some "list" else itemsTooLong? items
  | .map entries => if isTooLong entries.length then some "map" else pairsTooLong? entries
  | .record (.positional _ items) =>
    if isTooLong items.length then some "row" else itemsTooLong? items
  | .record (.named _ entries) =>
    if isTooLong entries.length then some "row" else entriesTooLong? entries
  | _ => none

def itemsTooLong? : List Value → Option String
  | [] => none
  | v :: rest => (tooLong? v).or (itemsTooLong? rest)

def pairsTooLong? : List (Value × Value) → Option String
  | [] => none
  | (k, v) :: rest => (tooLong? k).or ((tooLong? v).or (pairsTooLong? rest))

def entriesTooLong? : List (String × Value) → Option String
  | [] => none
  | (_, v) :: rest => (tooLong? v).or (entriesTooLong? rest)

end

mutual

/-- The bytes of a value in front of the first length that does not fit. -/
def torn : Value → List UInt8
  | .string text => if isTooLong (Utf8.encode text).length then [7] else encode (.string text)
  | .bytes content => if isTooLong content.length then [8] else encode (.bytes content)
  | .list items =>
    13 :: if isTooLong items.length then [] else lengthBytes items.length ++ tornItems items
  | .map entries =>
    14 :: if isTooLong entries.length then [] else lengthBytes entries.length ++ tornPairs entries
  | .record (.positional _ items) =>
    15 :: if isTooLong items.length then [] else lengthBytes items.length ++ tornItems items
  | .record (.named _ entries) =>
    15 :: if isTooLong entries.length then [] else lengthBytes entries.length ++ tornEntries entries
  | value => encode value

def tornItems : List Value → List UInt8
  | [] => []
  | v :: rest => torn v ++ if (tooLong? v).isSome then [] else tornItems rest

def tornPairs : List (Value × Value) → List UInt8
  | [] => []
  | (k, v) :: rest =>
    torn k ++ if (tooLong? k).isSome then []
      else torn v ++ if (tooLong? v).isSome then [] else tornPairs rest

def tornEntries : List (String × Value) → List UInt8
  | [] => []
  | (_, v) :: rest => torn v ++ if (tooLong? v).isSome then [] else tornEntries rest

end

end TableLoad.Batch

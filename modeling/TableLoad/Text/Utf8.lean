/-!
# UTF-8

Text as bytes and back.  Bytes that are no text are refused with the place of
the first sequence that no character starts with, and with its length unless
the input ended inside it.
-/

set_option autoImplicit false

namespace TableLoad.Utf8

/-- The first sequence that is no character: where it starts and how many bytes
are certainly wrong, or that the input ended inside it. -/
inductive Fault
  | invalid (index length : Nat)
  | incomplete (index : Nat)
deriving DecidableEq, Repr

def Fault.message : Fault → String
  | .invalid index length => s!"invalid utf-8 sequence of {length} bytes from index {index}"
  | .incomplete index => s!"incomplete utf-8 byte sequence from index {index}"

def encode (text : String) : List UInt8 :=
  text.toUTF8.data.toList

def isContinuation (b : UInt8) : Bool :=
  0x80 ≤ b && b ≤ 0xbf

/-- How many bytes a character with this first byte has, none if no character
starts with it. -/
def width? (first : UInt8) : Option Nat :=
  if first ≤ 0x7f then some 1
  else if 0xc2 ≤ first && first ≤ 0xdf then some 2
  else if 0xe0 ≤ first && first ≤ 0xef then some 3
  else if 0xf0 ≤ first && first ≤ 0xf4 then some 4
  else none

/-- The second byte may follow the first: no overlong form, no surrogate and
nothing past the last code point. -/
def isSecond (first second : UInt8) : Bool :=
  if first = 0xe0 then 0xa0 ≤ second && second ≤ 0xbf
  else if first = 0xed then 0x80 ≤ second && second ≤ 0x9f
  else if first = 0xf0 then 0x90 ≤ second && second ≤ 0xbf
  else if first = 0xf4 then 0x80 ≤ second && second ≤ 0x8f
  else isContinuation second

/-- Outcome of looking at the front of the input: a whole character of some
width, a sequence known to be wrong, or an input that ends too early. -/
inductive Front
  | whole (rest : List UInt8) (width : Nat)
  | wrong (length : Nat)
  | short

def continuations : (due seen : Nat) → List UInt8 → Front
  | 0, seen, rest => .whole rest seen
  | _ + 1, _, [] => .short
  | due + 1, seen, b :: rest =>
      if isContinuation b then continuations due (seen + 1) rest else .wrong seen

def front (first : UInt8) (rest : List UInt8) : Front :=
  match width? first with
  | none => .wrong 1
  | some 1 => .whole rest 1
  | some width =>
    match rest with
    | [] => .short
    | second :: rest =>
      if isSecond first second then continuations (width - 2) 2 rest else .wrong 1

/-- The first fault at or after a position; `fuel` bounds the characters looked
at. -/
def faultFrom : (fuel index : Nat) → List UInt8 → Fault
  | 0, index, _ => .incomplete index
  | _ + 1, index, [] => .incomplete index
  | fuel + 1, index, first :: rest =>
    match front first rest with
    | .whole rest width => faultFrom fuel (index + width) rest
    | .wrong length => .invalid index length
    | .short => .incomplete index

def decode (bytes : List UInt8) : Except Fault String :=
  match String.fromUTF8? ⟨bytes.toArray⟩ with
  | some text => .ok text
  | none => .error (faultFrom (bytes.length + 1) 0 bytes)

theorem decode_encode (text : String) : decode (encode text) = .ok text := by
  have read : String.fromUTF8? ⟨(encode text).toArray⟩ = some text := by
    simp only [encode, String.fromUTF8?, String.toUTF8_eq_toByteArray, Array.toArray_toList]
    rw [dif_pos text.isValidUTF8]
    rfl
  simp only [decode, read]

end TableLoad.Utf8

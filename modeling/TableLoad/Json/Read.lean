import TableLoad.Json.Basic

/-!
# Reading JSON

Reads one document from the front of some bytes.  Only the grammar is checked
here; nesting, ranges of numbers and text of strings are left to whoever uses
the document.
-/

set_option autoImplicit false

namespace TableLoad.Json

def byte (c : Char) : UInt8 :=
  UInt8.ofNat c.toNat

def isBlank (b : UInt8) : Bool :=
  b = 0x20 || b = 0x09 || b = 0x0a || b = 0x0d

def skipBlanks (bytes : List UInt8) : List UInt8 :=
  bytes.dropWhile isBlank

def isDigitByte (b : UInt8) : Bool :=
  0x30 ≤ b && b ≤ 0x39

/-! ## Strings -/

/-- What a string is made of: bytes as they stand, and escaped 16-bit units. -/
inductive Piece
  | byte (b : UInt8)
  | escaped (unit : Nat)
deriving DecidableEq, Repr

/-- The byte meant by a letter after a backslash, the letter `u` apart. -/
def shortEscape? (b : UInt8) : Option UInt8 :=
  if b = 0x22 then some 0x22
  else if b = 0x5c then some 0x5c
  else if b = 0x2f then some 0x2f
  else if b = 0x62 then some 0x08
  else if b = 0x66 then some 0x0c
  else if b = 0x6e then some 0x0a
  else if b = 0x72 then some 0x0d
  else if b = 0x74 then some 0x09
  else none

def hexValue? (b : UInt8) : Option Nat :=
  Hex.value? (Char.ofNat b.toNat)

/-- The pieces up to the closing quote, and the bytes after it. -/
def readPieces : List UInt8 → Option (List Piece × List UInt8)
  | [] => none
  | 0x22 :: rest => some ([], rest)
  | 0x5c :: 0x75 :: a :: b :: c :: d :: rest => do
    let unit := (((← hexValue? a) * 16 + (← hexValue? b)) * 16 + (← hexValue? c)) * 16 +
      (← hexValue? d)
    let (pieces, rest) ← readPieces rest
    return (.escaped unit :: pieces, rest)
  | 0x5c :: letter :: rest => do
    let b ← shortEscape? letter
    let (pieces, rest) ← readPieces rest
    return (.byte b :: pieces, rest)
  | [0x5c] => none
  | b :: rest =>
    if b < 0x20 then none
    else do
      let (pieces, rest) ← readPieces rest
      return (.byte b :: pieces, rest)

def isHighSurrogate (unit : Nat) : Bool :=
  0xd800 ≤ unit && unit ≤ 0xdbff

def isLowSurrogate (unit : Nat) : Bool :=
  0xdc00 ≤ unit && unit ≤ 0xdfff

def codePointBytes (n : Nat) : List UInt8 :=
  String.utf8EncodeChar (Char.ofNat n)

/-- The bytes meant by the pieces; surrogates must come in pairs. -/
def piecesBytes? : List Piece → Option (List UInt8)
  | [] => some []
  | .byte b :: rest => (piecesBytes? rest).map (b :: ·)
  | .escaped high :: .escaped low :: rest =>
    if isHighSurrogate high then
      if isLowSurrogate low then
        (piecesBytes? rest).map
          (codePointBytes (0x10000 + (high - 0xd800) * 0x400 + (low - 0xdc00)) ++ ·)
      else none
    else if isLowSurrogate high then none
    else (piecesBytes? (.escaped low :: rest)).map (codePointBytes high ++ ·)
  | .escaped unit :: rest =>
    if isHighSurrogate unit || isLowSurrogate unit then none
    else (piecesBytes? rest).map (codePointBytes unit ++ ·)

def piecesText? (pieces : List Piece) : Option String := do
  let bytes ← piecesBytes? pieces
  match Utf8.decode bytes with
  | .ok text => some text
  | .error _ => none

def readString (bytes : List UInt8) : Option (Option String × List UInt8) := do
  let (pieces, rest) ← readPieces bytes
  return (piecesText? pieces, rest)

/-! ## Numbers -/

def digitChar (b : UInt8) : Char :=
  Char.ofNat b.toNat

/-- The leading digits, of which there must be one, and the rest. -/
def readDigits (bytes : List UInt8) : Option (List Char × List UInt8) :=
  match bytes.takeWhile isDigitByte with
  | [] => none
  | digits => some (digits.map digitChar, bytes.dropWhile isDigitByte)

/-- Digits without a leading zero, or a single zero. -/
def readWhole : List UInt8 → Option (List Char × List UInt8)
  | 0x30 :: rest =>
    match rest with
    | [] => some (['0'], [])
    | b :: more => if isDigitByte b then none else some (['0'], b :: more)
  | bytes => readDigits bytes

def readFraction : List UInt8 → Option (List Char × List UInt8)
  | 0x2e :: rest => readDigits rest
  | bytes => some ([], bytes)

def readSignedDigits (bytes : List UInt8) : Option (Option (Bool × List Char) × List UInt8) :=
  match bytes with
  | 0x2d :: rest => (readDigits rest).map fun (digits, rest) => (some (true, digits), rest)
  | 0x2b :: rest => (readDigits rest).map fun (digits, rest) => (some (false, digits), rest)
  | _ => (readDigits bytes).map fun (digits, rest) => (some (false, digits), rest)

def readExponent : List UInt8 → Option (Option (Bool × List Char) × List UInt8)
  | 0x65 :: rest => readSignedDigits rest
  | 0x45 :: rest => readSignedDigits rest
  | bytes => some (none, bytes)

def readUnsigned (negative : Bool) (bytes : List UInt8) : Option (Numeral × List UInt8) := do
  let (whole, rest) ← readWhole bytes
  let (fraction, rest) ← readFraction rest
  let (exponent, rest) ← readExponent rest
  return ({ negative, whole, fraction, exponent }, rest)

def readNumber : List UInt8 → Option (Numeral × List UInt8)
  | 0x2d :: rest => readUnsigned true rest
  | bytes => readUnsigned false bytes

/-! ## Documents -/

def expectWord (word : List UInt8) (bytes : List UInt8) : Option (List UInt8) :=
  if word.isPrefixOf bytes then some (bytes.drop word.length) else none

/-- A document that is neither list nor object. -/
def readLeaf (bytes : List UInt8) : Option (Json × List UInt8) :=
  match bytes with
  | [] => none
  | 0x22 :: rest => (readString rest).map fun (text, rest) => (.string text, rest)
  | 0x6e :: rest => (expectWord ("ull".toList.map byte) rest).map fun rest => (.null, rest)
  | 0x74 :: rest => (expectWord ("rue".toList.map byte) rest).map fun rest => (.bool true, rest)
  | 0x66 :: rest => (expectWord ("alse".toList.map byte) rest).map fun rest => (.bool false, rest)
  | bytes => (readNumber bytes).map fun (n, rest) => (.number n, rest)

mutual

/-- A document after blanks; `fuel` bounds the steps. -/
def readDocument : (fuel : Nat) → List UInt8 → Option (Json × List UInt8)
  | 0, _ => none
  | fuel + 1, bytes =>
    match skipBlanks bytes with
    | 0x5b :: rest =>
      match skipBlanks rest with
      | 0x5d :: rest => some (.array [], rest)
      | rest => (readItems fuel rest).map fun (items, rest) => (.array items, rest)
    | 0x7b :: rest =>
      match skipBlanks rest with
      | 0x7d :: rest => some (.object [], rest)
      | rest => (readMembers fuel rest).map fun (members, rest) => (.object members, rest)
    | rest => readLeaf rest

def readItems : (fuel : Nat) → List UInt8 → Option (List Json × List UInt8)
  | 0, _ => none
  | fuel + 1, bytes => do
    let (item, rest) ← readDocument fuel bytes
    match skipBlanks rest with
    | 0x2c :: rest =>
      let (items, rest) ← readItems fuel rest
      return (item :: items, rest)
    | 0x5d :: rest => return ([item], rest)
    | _ => none

def readMembers : (fuel : Nat) → List UInt8 → Option (List (Option String × Json) × List UInt8)
  | 0, _ => none
  | fuel + 1, bytes =>
    match skipBlanks bytes with
    | 0x22 :: rest => do
      let (key, rest) ← readString rest
      match skipBlanks rest with
      | 0x3a :: rest =>
        let (item, rest) ← readDocument fuel rest
        match skipBlanks rest with
        | 0x2c :: rest =>
          let (members, rest) ← readMembers fuel rest
          return ((key, item) :: members, rest)
        | 0x7d :: rest => return ([(key, item)], rest)
        | _ => none
      | _ => none
    | _ => none

end

/-- The document at the front of some bytes, and the bytes after it.  Every two
steps take at least one byte, so the fuel never runs out before the bytes. -/
def read (bytes : List UInt8) : Option (Json × List UInt8) :=
  readDocument (2 * bytes.length + 2) bytes

def isSpent (bytes : List UInt8) : Bool :=
  (skipBlanks bytes).isEmpty

end TableLoad.Json

import TableLoad.Json.Read

/-!
# Writing JSON

Documents are written without blanks.  Strings escape the quote, the backslash
and the control characters.
-/

set_option autoImplicit false

namespace TableLoad.Json

def bytesOf (text : List Char) : List UInt8 :=
  text.map byte

def escapeByte (b : UInt8) : List UInt8 :=
  if b = 0x22 then [0x5c, 0x22]
  else if b = 0x5c then [0x5c, 0x5c]
  else if b = 0x08 then [0x5c, 0x62]
  else if b = 0x0c then [0x5c, 0x66]
  else if b = 0x0a then [0x5c, 0x6e]
  else if b = 0x0d then [0x5c, 0x72]
  else if b = 0x09 then [0x5c, 0x74]
  else if b < 0x20 then
    [0x5c, 0x75, 0x30, 0x30, byte (Hex.digit (b.toNat / 16)), byte (Hex.digit (b.toNat % 16))]
  else [b]

def renderString (text : String) : List UInt8 :=
  0x22 :: (Utf8.encode text).flatMap escapeByte ++ [0x22]

def renderNumeral (n : Numeral) : List UInt8 :=
  (if n.negative then [0x2d] else []) ++ bytesOf n.whole ++
    (if n.fraction.isEmpty then [] else 0x2e :: bytesOf n.fraction) ++
    match n.exponent with
    | none => []
    | some (negative, digits) => 0x65 :: (if negative then [0x2d] else []) ++ bytesOf digits

mutual

/-- The bytes of a document; a string without text is written as the empty
one. -/
def render : Json → List UInt8
  | .null => bytesOf "null".toList
  | .bool true => bytesOf "true".toList
  | .bool false => bytesOf "false".toList
  | .number n => renderNumeral n
  | .string text => renderString (text.getD "")
  | .array [] => [0x5b, 0x5d]
  | .array (item :: rest) => 0x5b :: (render item ++ renderItems rest)
  | .object [] => [0x7b, 0x7d]
  | .object ((key, item) :: rest) =>
    0x7b :: (renderString (key.getD "") ++ 0x3a :: (render item ++ renderMembers rest))

def renderItems : List Json → List UInt8
  | [] => [0x5d]
  | item :: rest => 0x2c :: (render item ++ renderItems rest)

def renderMembers : List (Option String × Json) → List UInt8
  | [] => [0x7d]
  | (key, item) :: rest =>
    0x2c :: (renderString (key.getD "") ++ 0x3a :: (render item ++ renderMembers rest))

end

end TableLoad.Json

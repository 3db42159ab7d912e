/-!
# Decimal digits

Numbers in padded decimal form, and digits taken from the front of a text.
-/

set_option autoImplicit false

namespace TableLoad.Digits

def isDigit (c : Char) : Bool :=
  '0' ≤ c && c ≤ '9'

def ofNat (n : Nat) : List Char :=
  Nat.toDigits 10 n

def padZeros (width : Nat) (text : List Char) : List Char :=
  List.replicate (width - text.length) '0' ++ text

def padded (width n : Nat) : List Char :=
  padZeros width (ofNat n)

def ofInt (n : Int) : List Char :=
  (if n < 0 then ['-'] else []) ++ ofNat n.natAbs

/-- The number written by digits, read after `prior`. -/
def value (prior : Nat) (digits : List Char) : Nat :=
  digits.foldl (fun n c => 10 * n + (c.toNat - '0'.toNat)) prior

def takeUpTo : (limit : Nat) → List Char → List Char × List Char
  | 0, text => ([], text)
  | _, [] => ([], [])
  | limit + 1, c :: rest =>
    if isDigit c then
      let (digits, rest) := takeUpTo limit rest
      (c :: digits, rest)
    else ([], c :: rest)

def takeAll (text : List Char) : List Char × List Char :=
  takeUpTo text.length text

/-- The number at the front of a text, of one to `limit` digits. -/
def read? (limit : Nat) (text : List Char) : Option (Nat × List Char) :=
  match takeUpTo limit text with
  | ([], _) => none
  | (digits, rest) => some (value 0 digits, rest)

end TableLoad.Digits

import TableLoad.Json.Render

/-!
# Strings read back

What is written between quotes is read back as the same text, whatever characters
had to be escaped.
-/

set_option autoImplicit false

namespace TableLoad.Json

/-- The piece that one written byte is read as: control characters without a
short form come back as escaped units. -/
def writtenPiece (b : UInt8) : Piece :=
  if b < 0x20 ∧ b ≠ 0x08 ∧ b ≠ 0x0c ∧ b ≠ 0x0a ∧ b ≠ 0x0d ∧ b ≠ 0x09 then .escaped b.toNat
  else .byte b

theorem hexValue_digit (n : Nat) (small : n < 16) :
    hexValue? (byte (Hex.digit n)) = some n := by
  have all : ∀ m, m < 16 → hexValue? (byte (Hex.digit m)) = some m := by decide
  exact all n small

theorem readPieces_plain (b : UInt8) (rest : List UInt8) (quote : b ≠ 0x22) (slash : b ≠ 0x5c)
    (printable : ¬ b < 0x20) :
    readPieces (b :: rest) = (readPieces rest).map fun (pieces, rest) => (.byte b :: pieces, rest) := by
  rw [readPieces.eq_def]
  split
  case h_6 same =>
    cases same
    rw [if_neg printable]
    cases readPieces rest <;> rfl
  all_goals simp_all

theorem readPieces_escape (b : UInt8) (rest : List UInt8) :
    readPieces (escapeByte b ++ rest) =
      (readPieces rest).map fun (pieces, rest) => (writtenPiece b :: pieces, rest) := by
  by_cases short : b = 0x22 ∨ b = 0x5c ∨ b = 0x08 ∨ b = 0x0c ∨ b = 0x0a ∨ b = 0x0d ∨ b = 0x09
  · rcases short with rfl | rfl | rfl | rfl | rfl | rfl | rfl <;>
      cases tail : readPieces rest <;>
        simp [escapeByte, readPieces, shortEscape?, writtenPiece, tail]
  · simp only [not_or] at short
    obtain ⟨quote, slash, backspace, feed, newline, «return», tab⟩ := short
    by_cases control : b < 0x20
    · have small : b.toNat < 32 := UInt8.lt_iff_toNat_lt.mp control
      have high := hexValue_digit (b.toNat / 16) (by omega)
      have low := hexValue_digit (b.toNat % 16) (by omega)
      have whole : b.toNat / 16 * 16 + b.toNat % 16 = b.toNat := by omega
      have zero : hexValue? 0x30 = some 0 := by decide
      cases tail : readPieces rest <;>
        simp [escapeByte, quote, slash, backspace, feed, newline, «return», tab, control,
          readPieces, zero, high, low, whole, writtenPiece, tail]
    · simp only [escapeByte, quote, slash, backspace, feed, newline, «return», tab, control,
        writtenPiece, if_false, false_and, List.cons_append, List.nil_append]
      exact readPieces_plain b rest quote slash control

theorem readPieces_written (bytes rest : List UInt8) :
    readPieces (bytes.flatMap escapeByte ++ 0x22 :: rest) = some (bytes.map writtenPiece, rest) := by
  induction bytes with
  | nil => simp [readPieces]
  | cons b bytes ih =>
    rw [List.flatMap_cons, List.append_assoc, readPieces_escape, ih]
    rfl

theorem piecesBytes_escaped (unit : Nat) (pieces : List Piece) (small : unit < 0x80) :
    piecesBytes? (.escaped unit :: pieces) =
      (piecesBytes? pieces).map (codePointBytes unit ++ ·) := by
  have notHigh : isHighSurrogate unit = false := by
    simp only [isHighSurrogate, Bool.and_eq_false_iff, decide_eq_false_iff_not]
    omega
  have notLow : isLowSurrogate unit = false := by
    simp only [isLowSurrogate, Bool.and_eq_false_iff, decide_eq_false_iff_not]
    omega
  cases pieces with
  | nil => simp [piecesBytes?, notHigh, notLow]
  | cons piece pieces => cases piece <;> simp [piecesBytes?, notHigh, notLow]

theorem codePointBytes_control (n : Nat) (small : n < 32) :
    codePointBytes n = [UInt8.ofNat n] := by
  have all : ∀ m, m < 32 → codePointBytes m = [UInt8.ofNat m] := by decide
  exact all n small

theorem piecesBytes_written (bytes : List UInt8) :
    piecesBytes? (bytes.map writtenPiece) = some bytes := by
  induction bytes with
  | nil => rfl
  | cons b bytes ih =>
    rw [List.map_cons, writtenPiece]
    split
    · rename_i control
      have small : b.toNat < 32 := UInt8.lt_iff_toNat_lt.mp control.1
      rw [piecesBytes_escaped b.toNat _ (by omega), ih, codePointBytes_control b.toNat small]
      simp
    · simp [piecesBytes?, ih]

theorem readString_render (text : String) (rest : List UInt8) :
    readString ((Utf8.encode text).flatMap escapeByte ++ 0x22 :: rest) =
      some (some text, rest) := by
  have bytes := piecesBytes_written (Utf8.encode text)
  simp [readString, readPieces_written, piecesText?, bytes, Utf8.decode_encode]

end TableLoad.Json

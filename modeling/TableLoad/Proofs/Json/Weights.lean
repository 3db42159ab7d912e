import TableLoad.Json.Read

/-!
# How many bytes a document takes

However a document is spelled, its texts, brackets and words take some bytes.
What a reader makes of some bytes is never heavier than the bytes it took.
-/

set_option autoImplicit false

namespace TableLoad

theorem Utf8.encode_of_decode (bytes : List UInt8) (text : String)
    (decoded : Utf8.decode bytes = .ok text) : Utf8.encode text = bytes := by
  unfold Utf8.decode String.fromUTF8? at decoded
  by_cases valid : ByteArray.IsValidUTF8 ⟨bytes.toArray⟩
  · simp only [valid, dite_true, Except.ok.injEq] at decoded
    simp [← decoded, Utf8.encode, String.fromUTF8]
  · simp [valid] at decoded

theorem Utf8.encode_injective : Function.Injective Utf8.encode := by
  intro a b same
  have decoded := Utf8.decode_encode a
  rw [same, Utf8.decode_encode] at decoded
  exact (Except.ok.inj decoded).symm

namespace Json

/-! ## Weights -/

/-- The bytes of a text without escapes, and its quotes. -/
def textWeight : Option String → Nat
  | none => 2
  | some text => (Utf8.encode text).length + 2

mutual

/-- Bytes that a document takes at least; blanks, commas and colons are not
counted. -/
def weight : Json → Nat
  | .null => 4
  | .bool _ => 4
  | .number _ => 1
  | .string text => textWeight text
  | .array items => itemsWeight items + 2
  | .object members => membersWeight members + 2

def itemsWeight : List Json → Nat
  | [] => 0
  | item :: rest => weight item + itemsWeight rest

def membersWeight : List (Option String × Json) → Nat
  | [] => 0
  | (key, item) :: rest => textWeight key + weight item + membersWeight rest

end

theorem two_le_textWeight (text : Option String) : 2 ≤ textWeight text := by
  cases text <;> simp [textWeight]

theorem weight_pos (json : Json) : 0 < weight json := by
  cases json with
  | null | bool | number | array | object => simp [weight]
  | string text =>
    have quotes := two_le_textWeight text
    rw [weight]
    omega

theorem skipBlanks_le (bytes : List UInt8) : (skipBlanks bytes).length ≤ bytes.length :=
  (List.dropWhile_suffix isBlank).length_le

/-! ## Strings -/

def pieceLength : Piece → Nat
  | .byte _ => 1
  | .escaped _ => 6

def piecesLength : List Piece → Nat
  | [] => 0
  | piece :: rest => pieceLength piece + piecesLength rest

theorem readPieces_takes (bytes : List UInt8) : ∀ pieces rest,
    readPieces bytes = some (pieces, rest) →
      piecesLength pieces + rest.length < bytes.length := by
  fun_induction readPieces bytes with
  | case1 | case5 | case6 =>
    intro pieces rest read
    cases read
  | case2 tail =>
    intro pieces rest read
    cases read
    simp only [piecesLength, List.length_cons]
    omega
  | case3 a b c d tail ih =>
    intro pieces rest read
    simp only [Option.bind_eq_bind, Option.bind_eq_some_iff, Prod.exists] at read
    obtain ⟨_, _, _, _, _, _, _, _, others, _, inner, whole⟩ := read
    cases whole
    have later := ih others _ inner
    simp only [piecesLength, pieceLength, List.length_cons] at later ⊢
    omega
  | case4 letter tail _ ih =>
    intro pieces rest read
    simp only [Option.bind_eq_bind, Option.bind_eq_some_iff, Prod.exists] at read
    obtain ⟨_, _, others, _, inner, whole⟩ := read
    cases whole
    have later := ih others _ inner
    simp only [piecesLength, pieceLength, List.length_cons] at later ⊢
    omega
  | case7 b tail _ _ _ _ _ ih =>
    intro pieces rest read
    simp only [Option.bind_eq_bind, Option.bind_eq_some_iff, Prod.exists] at read
    obtain ⟨others, _, inner, whole⟩ := read
    cases whole
    have later := ih others _ inner
    simp only [piecesLength, pieceLength, List.length_cons] at later ⊢
    omega

theorem codePointBytes_le (n : Nat) : (codePointBytes n).length ≤ 4 := by
  rw [codePointBytes, String.length_utf8EncodeChar]
  exact Char.utf8Size_le_four _

theorem piecesBytes_le (pieces : List Piece) :
    ∀ bytes, piecesBytes? pieces = some bytes → bytes.length ≤ piecesLength pieces := by
  fun_induction piecesBytes? pieces with
  | case1 =>
    intro bytes meant
    cases meant
    exact Nat.le_refl 0
  | case2 b rest ih =>
    intro bytes meant
    obtain ⟨others, inner, rfl⟩ := Option.map_eq_some_iff.mp meant
    have later := ih others inner
    simp only [piecesLength, pieceLength, List.length_cons]
    omega
  | case3 high low rest _ _ ih =>
    intro bytes meant
    obtain ⟨others, inner, rfl⟩ := Option.map_eq_some_iff.mp meant
    have later := ih others inner
    have front := codePointBytes_le (0x10000 + (high - 0xd800) * 0x400 + (low - 0xdc00))
    simp only [piecesLength, pieceLength, List.length_append]
    omega
  | case4 | case5 | case7 =>
    intro bytes meant
    cases meant
  | case6 high low rest _ _ ih =>
    intro bytes meant
    obtain ⟨others, inner, rfl⟩ := Option.map_eq_some_iff.mp meant
    have later := ih others inner
    have front := codePointBytes_le high
    rw [piecesLength, List.length_append, pieceLength]
    omega
  | case8 unit rest _ _ ih =>
    intro bytes meant
    obtain ⟨others, inner, rfl⟩ := Option.map_eq_some_iff.mp meant
    have later := ih others inner
    have front := codePointBytes_le unit
    rw [piecesLength, List.length_append, pieceLength]
    omega

theorem piecesText_weight (pieces : List Piece) :
    textWeight (piecesText? pieces) ≤ piecesLength pieces + 2 := by
  cases found : piecesText? pieces with
  | none => exact Nat.le_add_left 2 _
  | some text =>
    simp only [piecesText?, Option.bind_eq_bind, Option.bind_eq_some_iff] at found
    obtain ⟨bytes, meant, decoded⟩ := found
    have short := piecesBytes_le pieces bytes meant
    cases whole : Utf8.decode bytes with
    | error fault =>
      rw [whole] at decoded
      cases decoded
    | ok other =>
      rw [whole] at decoded
      cases decoded
      rw [textWeight, Utf8.encode_of_decode bytes _ whole]
      omega

theorem readString_takes (bytes rest : List UInt8) (text : Option String) :
    readString bytes = some (text, rest) → textWeight text + rest.length ≤ bytes.length + 1 := by
  intro read
  simp only [readString, Option.bind_eq_bind, Option.bind_eq_some_iff, Prod.exists] at read
  obtain ⟨pieces, _, inner, whole⟩ := read
  cases whole
  have taken := readPieces_takes bytes pieces _ inner
  have weight := piecesText_weight pieces
  omega

/-! ## Numbers -/

theorem readDigits_takes (bytes : List UInt8) : ∀ digits rest,
    readDigits bytes = some (digits, rest) → rest.length < bytes.length := by
  intro digits rest read
  have whole : (bytes.takeWhile isDigitByte ++ bytes.dropWhile isDigitByte).length =
      bytes.length := by
    rw [List.takeWhile_append_dropWhile]
  unfold readDigits at read
  cases taken : bytes.takeWhile isDigitByte with
  | nil =>
    rw [taken] at read
    cases read
  | cons b more =>
    rw [taken] at read whole
    cases read
    rw [List.length_append, List.length_cons] at whole
    omega

theorem readWhole_takes (bytes : List UInt8) : ∀ digits rest,
    readWhole bytes = some (digits, rest) → rest.length < bytes.length := by
  intro digits rest read
  unfold readWhole at read
  split at read
  · split at read
    · cases read
      simp
    · split at read
      · cases read
      · cases read
        simp
  · exact readDigits_takes _ _ _ read

theorem readFraction_takes (bytes : List UInt8) : ∀ digits rest,
    readFraction bytes = some (digits, rest) → rest.length ≤ bytes.length := by
  intro digits rest read
  unfold readFraction at read
  split at read
  · have taken := readDigits_takes _ _ _ read
    rw [List.length_cons]
    omega
  · cases read
    omega

theorem readSignedDigits_takes (bytes : List UInt8) : ∀ exponent rest,
    readSignedDigits bytes = some (exponent, rest) → rest.length ≤ bytes.length := by
  intro exponent rest read
  unfold readSignedDigits at read
  split at read
  all_goals
    obtain ⟨⟨digits, left⟩, inner, whole⟩ := Option.map_eq_some_iff.mp read
    cases whole
    have taken := readDigits_takes _ _ _ inner
    grind

theorem readExponent_takes (bytes : List UInt8) : ∀ exponent rest,
    readExponent bytes = some (exponent, rest) → rest.length ≤ bytes.length := by
  intro exponent rest read
  unfold readExponent at read
  split at read
  · have taken := readSignedDigits_takes _ _ _ read
    rw [List.length_cons]
    omega
  · have taken := readSignedDigits_takes _ _ _ read
    rw [List.length_cons]
    omega
  · cases read
    omega

theorem readUnsigned_takes (negative : Bool) (bytes : List UInt8) : ∀ number rest,
    readUnsigned negative bytes = some (number, rest) → rest.length < bytes.length := by
  intro number rest read
  simp only [readUnsigned, Option.bind_eq_bind, Option.bind_eq_some_iff, Prod.exists] at read
  obtain ⟨_, _, first, _, _, second, _, _, third, whole⟩ := read
  cases whole
  have digits := readWhole_takes _ _ _ first
  have fraction := readFraction_takes _ _ _ second
  have exponent := readExponent_takes _ _ _ third
  omega

theorem readNumber_takes (bytes : List UInt8) : ∀ number rest,
    readNumber bytes = some (number, rest) → rest.length < bytes.length := by
  intro number rest read
  unfold readNumber at read
  split at read
  · have taken := readUnsigned_takes true _ _ _ read
    rw [List.length_cons]
    omega
  · exact readUnsigned_takes false _ _ _ read

/-! ## Documents -/

theorem word_takes (word bytes rest : List UInt8) (value json : Json) :
    weight value ≤ word.length + 1 →
    (expectWord word bytes).map (fun rest => (value, rest)) = some (json, rest) →
      weight json + rest.length ≤ bytes.length + 1 := by
  intro short read
  unfold expectWord at read
  split at read
  · rename_i present
    obtain ⟨tail, rfl⟩ := List.isPrefixOf_iff_prefix.mp present
    cases read
    simp only [List.drop_left, List.length_append]
    omega
  · cases read

theorem readLeaf_takes (bytes : List UInt8) : ∀ json rest,
    readLeaf bytes = some (json, rest) → weight json + rest.length ≤ bytes.length := by
  intro json rest read
  unfold readLeaf at read
  split at read
  · cases read
  · obtain ⟨⟨text, left⟩, inner, whole⟩ := Option.map_eq_some_iff.mp read
    cases whole
    simpa [weight] using readString_takes _ _ _ inner
  · exact word_takes ("ull".toList.map byte) _ _ .null json (by decide) read
  · exact word_takes ("rue".toList.map byte) _ _ (.bool true) json (by decide) read
  · exact word_takes ("alse".toList.map byte) _ _ (.bool false) json (by decide) read
  · obtain ⟨⟨number, left⟩, inner, whole⟩ := Option.map_eq_some_iff.mp read
    cases whole
    have taken := readNumber_takes _ _ _ inner
    rw [weight]
    omega

/-- With this fuel a reader takes as many bytes as the document weighs, or more. -/
structure TakesWeight (fuel : Nat) : Prop where
  document : ∀ bytes json rest, readDocument fuel bytes = some (json, rest) →
    weight json + rest.length ≤ bytes.length
  items : ∀ bytes items rest, readItems fuel bytes = some (items, rest) →
    itemsWeight items + rest.length < bytes.length
  members : ∀ bytes members rest, readMembers fuel bytes = some (members, rest) →
    membersWeight members + rest.length < bytes.length

theorem readDocument_takes (fuel : Nat) (inner : TakesWeight fuel) (bytes : List UInt8) :
    ∀ json rest, readDocument (fuel + 1) bytes = some (json, rest) →
      weight json + rest.length ≤ bytes.length := by
  intro json rest read
  have blanks := skipBlanks_le bytes
  unfold readDocument at read
  split at read
  · rename_i tail opened
    have inside := skipBlanks_le tail
    rw [opened, List.length_cons] at blanks
    split at read
    · rename_i left closed
      cases read
      rw [closed, List.length_cons] at inside
      simp only [weight, itemsWeight]
      omega
    · obtain ⟨⟨items, left⟩, found, whole⟩ := Option.map_eq_some_iff.mp read
      cases whole
      have taken := inner.items _ _ _ found
      rw [weight]
      omega
  · rename_i tail opened
    have inside := skipBlanks_le tail
    rw [opened, List.length_cons] at blanks
    split at read
    · rename_i left closed
      cases read
      rw [closed, List.length_cons] at inside
      simp only [weight, membersWeight]
      omega
    · obtain ⟨⟨members, left⟩, found, whole⟩ := Option.map_eq_some_iff.mp read
      cases whole
      have taken := inner.members _ _ _ found
      rw [weight]
      omega
  · have taken := readLeaf_takes _ _ _ read
    omega

theorem readItems_takes (fuel : Nat) (inner : TakesWeight fuel) (bytes : List UInt8) :
    ∀ items rest, readItems (fuel + 1) bytes = some (items, rest) →
      itemsWeight items + rest.length < bytes.length := by
  intro items rest read
  simp only [readItems, Option.bind_eq_bind, Option.bind_eq_some_iff, Prod.exists] at read
  obtain ⟨item, left, first, later⟩ := read
  have taken := inner.document _ _ _ first
  have blanks := skipBlanks_le left
  split at later
  · rename_i tail comma
    simp only [Option.bind_eq_some_iff, Prod.exists] at later
    obtain ⟨others, _, found, whole⟩ := later
    cases whole
    have more := inner.items _ _ _ found
    rw [comma, List.length_cons] at blanks
    rw [itemsWeight]
    omega
  · rename_i tail closed
    cases later
    rw [closed, List.length_cons] at blanks
    simp only [itemsWeight]
    omega
  · cases later

theorem readMembers_takes (fuel : Nat) (inner : TakesWeight fuel) (bytes : List UInt8) :
    ∀ members rest, readMembers (fuel + 1) bytes = some (members, rest) →
      membersWeight members + rest.length < bytes.length := by
  intro members rest read
  have front := skipBlanks_le bytes
  unfold readMembers at read
  split at read
  · rename_i tail opened
    rw [opened, List.length_cons] at front
    simp only [Option.bind_eq_bind, Option.bind_eq_some_iff, Prod.exists] at read
    obtain ⟨key, named, text, read⟩ := read
    have keyTaken := readString_takes _ _ _ text
    have middle := skipBlanks_le named
    split at read
    · rename_i body colon
      rw [colon, List.length_cons] at middle
      simp only [Option.bind_eq_some_iff, Prod.exists] at read
      obtain ⟨item, left, first, later⟩ := read
      have taken := inner.document _ _ _ first
      have blanks := skipBlanks_le left
      split at later
      · rename_i more comma
        simp only [Option.bind_eq_some_iff, Prod.exists] at later
        obtain ⟨others, _, found, whole⟩ := later
        cases whole
        have others := inner.members _ _ _ found
        rw [comma, List.length_cons] at blanks
        rw [membersWeight]
        omega
      · rename_i more closed
        cases later
        rw [closed, List.length_cons] at blanks
        simp only [membersWeight]
        omega
      · cases later
    · cases read
  · cases read

theorem takesWeight (fuel : Nat) : TakesWeight fuel := by
  induction fuel with
  | zero =>
    constructor
    all_goals
      intro bytes value rest read
      simp only [readDocument, readItems, readMembers] at read
      cases read
  | succ fuel ih =>
    exact ⟨readDocument_takes fuel ih, readItems_takes fuel ih, readMembers_takes fuel ih⟩

theorem weight_le_of_read (bytes rest : List UInt8) (json : Json) :
    read bytes = some (json, rest) → weight json ≤ bytes.length := by
  intro found
  have taken := (takesWeight _).document bytes json rest found
  omega

end Json

end TableLoad

import TableLoad.Proofs.Json.Strings
import TableLoad.Proofs.Text.Digits

/-!
# Documents read back

Reading what was written gives the same document and leaves what follows it, for
documents of texts, truth values and natural numbers.
-/

set_option autoImplicit false

namespace TableLoad.Json

mutual

/-- Every string has a text and every number is natural. -/
def IsPlain : Json → Prop
  | .null => True
  | .bool _ => True
  | .number n => ∃ value, n = .ofNat value
  | .string text => text.isSome = true
  | .array items => ArePlain items
  | .object members => MembersPlain members

def ArePlain : List Json → Prop
  | [] => True
  | item :: rest => IsPlain item ∧ ArePlain rest

def MembersPlain : List (Option String × Json) → Prop
  | [] => True
  | (key, item) :: rest => key.isSome = true ∧ IsPlain item ∧ MembersPlain rest

end

/-! ## Numbers -/

def EndsNumber (rest : List UInt8) : Prop :=
  ∀ b, rest.head? = some b → isDigitByte b = false ∧ b ≠ 0x2e ∧ b ≠ 0x65 ∧ b ≠ 0x45

theorem digitChar_byte (c : Char) (digit : Digits.isDigit c = true) :
    digitChar (byte c) = c ∧ isDigitByte (byte c) = true := by
  obtain ⟨low, high⟩ := (Digits.isDigit_iff c).mp digit
  have number : (byte c).toNat = c.toNat := UInt8.toNat_ofNat_of_lt' (by
    have : (57 : Nat) < UInt8.size := by decide
    omega)
  refine ⟨?_, ?_⟩
  · rw [digitChar, number, Char.ofNat_toNat]
  · simp only [isDigitByte, Bool.and_eq_true, decide_eq_true_eq, UInt8.le_iff_toNat_le, number]
    exact ⟨low, high⟩

theorem takeWhile_digits (digits : List Char) (rest : List UInt8)
    (all : ∀ c ∈ digits, Digits.isDigit c = true) (ends : EndsNumber rest) :
    (bytesOf digits ++ rest).takeWhile isDigitByte = bytesOf digits ∧
      (bytesOf digits ++ rest).dropWhile isDigitByte = rest := by
  induction digits with
  | nil =>
    cases rest with
    | nil => simp [bytesOf]
    | cons b rest =>
      have stop := (ends b rfl).1
      simp [bytesOf, stop]
  | cons c digits ih =>
    obtain ⟨taken, left⟩ := ih fun other member => all other (by simp [member])
    have digit := (digitChar_byte c (all c (by simp))).2
    simp only [bytesOf] at taken left ⊢
    simp [digit, taken, left]

theorem readDigits_written (digits : List Char) (rest : List UInt8) (present : digits ≠ [])
    (all : ∀ c ∈ digits, Digits.isDigit c = true) (ends : EndsNumber rest) :
    readDigits (bytesOf digits ++ rest) = some (digits, rest) := by
  obtain ⟨taken, left⟩ := takeWhile_digits digits rest all ends
  have back : (bytesOf digits).map digitChar = digits := by
    rw [bytesOf, List.map_map]
    have each : digits.map (digitChar ∘ byte) = digits.map id :=
      List.map_congr_left fun c member => (digitChar_byte c (all c member)).1
    rw [each, List.map_id]
  rw [readDigits, taken, left]
  split
  · rename_i none
    exact absurd (List.map_eq_nil_iff.mp none) present
  · rw [back]

theorem readWhole_written (n : Nat) (rest : List UInt8) (ends : EndsNumber rest) :
    readWhole (bytesOf (Digits.ofNat n) ++ rest) = some (Digits.ofNat n, rest) := by
  by_cases zero : n = 0
  · subst n
    cases rest with
    | nil => rfl
    | cons b rest =>
      have stop := (ends b rfl).1
      have digits : Digits.ofNat 0 = ['0'] := rfl
      simp [digits, bytesOf, byte, readWhole, stop]
  · obtain ⟨c, others, whole, nonzero⟩ := Digits.head_ofNat n (Nat.pos_of_ne_zero zero)
    have digit := Digits.isDigit_ofNat n c (by simp [whole])
    have different : byte c ≠ 0x30 := by
      intro same
      apply nonzero
      rw [← (digitChar_byte c digit).1, same]
      rfl
    have read := readDigits_written (Digits.ofNat n) rest (by simp [whole])
      (Digits.isDigit_ofNat n) ends
    rw [whole] at read ⊢
    rw [← read, readWhole.eq_def]
    split
    case h_1 same => exact absurd (List.cons.inj same).1 different
    case h_2 => rfl

theorem readFraction_none (rest : List UInt8) (ends : EndsNumber rest) :
    readFraction rest = some ([], rest) := by
  rw [readFraction.eq_def]
  split
  case h_1 tail => exact absurd rfl (ends 0x2e rfl).2.1
  case h_2 => rfl

theorem readExponent_none (rest : List UInt8) (ends : EndsNumber rest) :
    readExponent rest = some (none, rest) := by
  rw [readExponent.eq_def]
  split
  case h_1 tail => exact absurd rfl (ends 0x65 rfl).2.2.1
  case h_2 tail => exact absurd rfl (ends 0x45 rfl).2.2.2
  case h_3 => rfl

theorem readNumber_written (n : Nat) (rest : List UInt8) (ends : EndsNumber rest) :
    readNumber (renderNumeral (.ofNat n) ++ rest) = some (.ofNat n, rest) := by
  have rendered : renderNumeral (.ofNat n) = bytesOf (Digits.ofNat n) := by
    simp [renderNumeral, Numeral.ofNat]
  have whole := readWhole_written n rest ends
  have fraction := readFraction_none rest ends
  have exponent := readExponent_none rest ends
  obtain ⟨c, others, digits, digit⟩ : ∃ c others, Digits.ofNat n = c :: others ∧
      Digits.isDigit c = true := by
    cases digits : Digits.ofNat n with
    | nil => exact absurd digits Nat.toDigits_ne_nil
    | cons c others => exact ⟨c, others, rfl, Digits.isDigit_ofNat n c (by simp [digits])⟩
  have unsigned : readUnsigned false (bytesOf (Digits.ofNat n) ++ rest) =
      some (.ofNat n, rest) := by
    simp [readUnsigned, whole, fraction, exponent, Numeral.ofNat]
  rw [rendered, ← unsigned, digits, readNumber.eq_def]
  split
  case h_1 same =>
    have minus : byte c = 0x2d := (List.cons.inj same).1
    have digitByte := (digitChar_byte c digit).2
    rw [minus] at digitByte
    cases digitByte
  case h_2 => rfl

/-! ## Whole documents -/

def itemsBody : List Json → List UInt8
  | [] => []
  | item :: rest => render item ++ renderItems rest

def membersBody : List (Option String × Json) → List UInt8
  | [] => []
  | (key, item) :: rest =>
    renderString (key.getD "") ++ 0x3a :: (render item ++ renderMembers rest)

theorem skipBlanks_cons (b : UInt8) (rest : List UInt8) (solid : isBlank b = false) :
    skipBlanks (b :: rest) = b :: rest := by
  simp [skipBlanks, solid]

theorem renderNumeral_head (n : Nat) :
    ∃ b rest, renderNumeral (.ofNat n) = b :: rest ∧ isDigitByte b = true := by
  cases digits : Digits.ofNat n with
  | nil => exact absurd digits Nat.toDigits_ne_nil
  | cons c others =>
    refine ⟨byte c, bytesOf others, ?_, ?_⟩
    · simp [renderNumeral, Numeral.ofNat, digits, bytesOf]
    · exact (digitChar_byte c (Digits.isDigit_ofNat n c (by simp [digits]))).2

theorem isBlank_of_digit (b : UInt8) (digit : isDigitByte b = true) : isBlank b = false := by
  cases blank : isBlank b with
  | false => rfl
  | true =>
    simp only [isBlank, Bool.or_eq_true, decide_eq_true_eq] at blank
    rcases blank with ((rfl | rfl) | rfl) | rfl <;> cases digit

theorem render_head (json : Json) (plain : IsPlain json) :
    ∃ b rest, render json = b :: rest ∧ isBlank b = false ∧ b ≠ 0x5d := by
  cases json with
  | null => exact ⟨0x6e, _, rfl, rfl, by decide⟩
  | bool b => cases b <;> exact ⟨_, _, rfl, rfl, by decide⟩
  | number n =>
    simp only [IsPlain] at plain
    obtain ⟨value, rfl⟩ := plain
    obtain ⟨b, rest, whole, digit⟩ := renderNumeral_head value
    refine ⟨b, rest, by simp [render, whole], ?_, ?_⟩
    · exact isBlank_of_digit b digit
    · rintro rfl
      cases digit
  | string text => exact ⟨0x22, _, rfl, rfl, by decide⟩
  | array items => cases items <;> exact ⟨0x5b, _, rfl, rfl, by decide⟩
  | object members =>
    cases members with
    | nil => exact ⟨0x7b, _, rfl, rfl, by decide⟩
    | cons member rest =>
      obtain ⟨key, item⟩ := member
      exact ⟨0x7b, _, rfl, rfl, by decide⟩

theorem readDocument_number (fuel n : Nat) (rest : List UInt8) (ends : EndsNumber rest) :
    readDocument (fuel + 1) (renderNumeral (.ofNat n) ++ rest) =
      some (.number (.ofNat n), rest) := by
  have read := readNumber_written n rest ends
  obtain ⟨b, tail, whole, digit⟩ := renderNumeral_head n
  rw [whole, List.cons_append] at read ⊢
  have solid := skipBlanks_cons b (tail ++ rest) (isBlank_of_digit b digit)
  have leaf : readLeaf (b :: (tail ++ rest)) = some (.number (.ofNat n), rest) := by
    rw [readLeaf.eq_def]
    split
    case h_6 => rw [read]; rfl
    all_goals simp_all [isDigitByte]
  rw [readDocument, solid]
  split
  case h_3 => exact leaf
  all_goals simp_all [isDigitByte]

theorem endsNumber_cons (b : UInt8) (rest : List UInt8)
    (ends : isDigitByte b = false ∧ b ≠ 0x2e ∧ b ≠ 0x65 ∧ b ≠ 0x45) :
    EndsNumber (b :: rest) := by
  intro other head
  cases head
  exact ends

theorem endsNumber_items (items : List Json) (rest : List UInt8) :
    EndsNumber (renderItems items ++ rest) := by
  cases items <;> exact endsNumber_cons _ _ (by decide)

theorem endsNumber_members (members : List (Option String × Json)) (rest : List UInt8) :
    EndsNumber (renderMembers members ++ rest) := by
  cases members <;> exact endsNumber_cons _ _ (by decide)

theorem renderItems_length_pos (items : List Json) : 0 < (renderItems items).length := by
  cases items <;> simp [renderItems]

theorem renderMembers_length_pos (members : List (Option String × Json)) :
    0 < (renderMembers members).length := by
  cases members <;> simp [renderMembers]

mutual

/-- Reading a written document, with two steps of fuel for each of its bytes. -/
theorem readDocument_render :
    (json : Json) → IsPlain json → (fuel : Nat) → (rest : List UInt8) →
      2 * (render json).length ≤ fuel → EndsNumber rest →
      readDocument fuel (render json ++ rest) = some (json, rest)
  | json, plain, 0, rest, enough, _ => by
    obtain ⟨b, tail, whole, _⟩ := render_head json plain
    simp [whole] at enough
  | .null, _, fuel + 1, rest, enough, _ => by
    rfl
  | .bool true, _, fuel + 1, rest, enough, _ => by
    rfl
  | .bool false, _, fuel + 1, rest, enough, _ => by
    rfl
  | .number n, plain, fuel + 1, rest, enough, ends => by
    simp only [IsPlain] at plain
    obtain ⟨value, rfl⟩ := plain
    exact readDocument_number fuel value rest ends
  | .string text, plain, fuel + 1, rest, enough, _ => by
    simp only [IsPlain, Option.isSome_iff_exists] at plain
    obtain ⟨text, rfl⟩ := plain
    have read := readString_render text rest
    simp only [render, renderString, Option.getD_some, List.cons_append, List.append_assoc,
      List.nil_append]
    rw [readDocument, skipBlanks_cons 0x22 _ rfl]
    change (readString _).map (fun (found, rest) => (Json.string found, rest)) = _
    rw [read]
    rfl
  | .array [], plain, fuel + 1, rest, enough, _ => by
    rfl
  | .array (item :: items), plain, fuel + 1, rest, enough, _ => by
    simp only [IsPlain] at plain
    have shape : render (.array (item :: items)) =
        0x5b :: (itemsBody (item :: items) ++ []) := by simp [render, itemsBody]
    rw [shape, List.append_nil, List.length_cons] at enough
    have read := readItems_render (item :: items) plain (by simp) fuel rest (by omega)
    -- The first item begins neither with a blank nor like the end of the list.
    obtain ⟨b, tail, head, solid, notClosing⟩ := render_head item plain.1
    have body : itemsBody (item :: items) ++ rest =
        b :: (tail ++ (renderItems items ++ rest)) := by simp [itemsBody, head]
    rw [shape, List.append_nil, List.cons_append, readDocument, skipBlanks_cons 0x5b _ rfl]
    rw [body] at read ⊢
    simp only [skipBlanks_cons b _ solid]
    split
    case h_1 same => exact absurd (List.cons.inj same).1 notClosing
    case h_2 => rw [read]; rfl
  | .object [], plain, fuel + 1, rest, enough, _ => by
    rfl
  | .object (member :: members), plain, fuel + 1, rest, enough, _ => by
    simp only [IsPlain] at plain
    obtain ⟨key, item⟩ := member
    have shape : render (.object ((key, item) :: members)) =
        0x7b :: membersBody ((key, item) :: members) := by simp [render, membersBody]
    rw [shape, List.length_cons] at enough
    have read := readMembers_render ((key, item) :: members) plain (by simp) fuel rest (by omega)
    have body : ∃ tail, membersBody ((key, item) :: members) ++ rest = 0x22 :: tail := by
      simp [membersBody, renderString]
    obtain ⟨tail, body⟩ := body
    rw [shape, List.cons_append, readDocument, skipBlanks_cons 0x7b _ rfl]
    rw [body] at read ⊢
    simp only [skipBlanks_cons 0x22 _ rfl]
    change (readMembers fuel _).map (fun (found, rest) => (Json.object found, rest)) = _
    rw [read]
    rfl

theorem readItems_render :
    (items : List Json) → ArePlain items → items ≠ [] → (fuel : Nat) → (rest : List UInt8) →
      2 * (itemsBody items).length ≤ fuel →
      readItems fuel (itemsBody items ++ rest) = some (items, rest)
  | [], _, present, _, _, _ => absurd rfl present
  | item :: items, plain, _, 0, rest, enough => by
    have positive := renderItems_length_pos items
    simp only [itemsBody, List.length_append] at enough
    omega
  | item :: items, plain, _, fuel + 1, rest, enough => by
    have positive := renderItems_length_pos items
    simp only [itemsBody, List.length_append] at enough
    have first := readDocument_render item plain.1 fuel (renderItems items ++ rest) (by omega)
      (endsNumber_items items rest)
    simp only [itemsBody, List.append_assoc, readItems, first, Option.bind_eq_bind,
      Option.bind_some]
    cases items with
    | nil => rfl
    | cons next items =>
      have later := readItems_render (next :: items) plain.2 (by simp) fuel rest (by
        simp only [renderItems, List.length_cons, List.length_append] at enough
        simp only [itemsBody, List.length_append]
        omega)
      have shape : renderItems (next :: items) ++ rest =
          0x2c :: (itemsBody (next :: items) ++ rest) := by simp [renderItems, itemsBody]
      rw [shape, skipBlanks_cons 0x2c _ rfl]
      simp only [later, Option.bind_some]
      rfl

theorem readMembers_render :
    (members : List (Option String × Json)) → MembersPlain members → members ≠ [] →
      (fuel : Nat) → (rest : List UInt8) → 2 * (membersBody members).length ≤ fuel →
      readMembers fuel (membersBody members ++ rest) = some (members, rest)
  | [], _, present, _, _, _ => absurd rfl present
  | (key, item) :: members, plain, _, 0, rest, enough => by
    have positive := renderMembers_length_pos members
    simp only [membersBody, List.length_append, List.length_cons] at enough
    omega
  | (key, item) :: members, plain, _, fuel + 1, rest, enough => by
    obtain ⟨named, first, others⟩ := plain
    obtain ⟨name, rfl⟩ := Option.isSome_iff_exists.mp named
    have positive := renderMembers_length_pos members
    simp only [membersBody, List.length_append, List.length_cons] at enough
    have value := readDocument_render item first fuel (renderMembers members ++ rest) (by omega)
      (endsNumber_members members rest)
    have read := readString_render name (0x3a :: (render item ++ (renderMembers members ++ rest)))
    have shape : membersBody ((some name, item) :: members) ++ rest =
        0x22 :: ((Utf8.encode name).flatMap escapeByte ++
          0x22 :: 0x3a :: (render item ++ (renderMembers members ++ rest))) := by
      simp [membersBody, renderString]
    rw [shape, readMembers, skipBlanks_cons 0x22 _ rfl]
    simp only [read, Option.bind_eq_bind, Option.bind_some, skipBlanks_cons 0x3a _ rfl, value]
    cases members with
    | nil => rfl
    | cons next members =>
      have later := readMembers_render (next :: members) others (by simp) fuel rest (by
        simp only [renderMembers, List.length_cons, List.length_append] at enough
        simp only [membersBody, List.length_append, List.length_cons]
        omega)
      have shape : renderMembers (next :: members) ++ rest =
          0x2c :: (membersBody (next :: members) ++ rest) := by simp [renderMembers, membersBody]
      rw [shape, skipBlanks_cons 0x2c _ rfl]
      simp only [later, Option.bind_some]
      rfl

end

theorem read_render (json : Json) (plain : IsPlain json) (rest : List UInt8)
    (ends : EndsNumber rest) : read (render json ++ rest) = some (json, rest) := by
  rw [read]
  refine readDocument_render json plain _ rest ?_ ends
  rw [List.length_append]
  omega

end TableLoad.Json

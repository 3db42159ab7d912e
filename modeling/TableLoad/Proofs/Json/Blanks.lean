import TableLoad.Proofs.Json.Strings
import TableLoad.Proofs.Json.Weights

/-!
# Blanks after a document

A blank after some bytes changes nothing in how they are read: no part of a document ends
with a blank or needs one to end, so the blank is left over as it was added.
-/

set_option autoImplicit false

namespace TableLoad.Json

def leaving {α : Type} (b : UInt8) (found : α × List UInt8) : α × List UInt8 :=
  (found.1, found.2 ++ [b])

section Leaves

variable {b : UInt8}

theorem ne_of_blank (blank : isBlank b = true) {c : UInt8} (solid : isBlank c = false) :
    b ≠ c := by
  rintro rfl
  cases blank.symm.trans solid

theorem isDigitByte_of_blank (blank : isBlank b = true) : isDigitByte b = false := by
  cases digit : isDigitByte b with
  | false => rfl
  | true =>
    simp only [isBlank, Bool.or_eq_true, decide_eq_true_eq] at blank
    rcases blank with ((rfl | rfl) | rfl) | rfl <;> cases digit

theorem escape_of_blank (blank : isBlank b = true) :
    shortEscape? b = none ∧ hexValue? b = none := by
  simp only [isBlank, Bool.or_eq_true, decide_eq_true_eq] at blank
  rcases blank with ((rfl | rfl) | rfl) | rfl <;> decide

/-! ## Strings -/

theorem readPieces_control {c : UInt8} (control : c < 0x20) (rest : List UInt8) :
    readPieces (c :: rest) = none := by
  have quote : c ≠ 0x22 := by
    rintro rfl
    exact absurd control (by decide)
  have slash : c ≠ 0x5c := by
    rintro rfl
    exact absurd control (by decide)
  rw [readPieces.eq_6 c rest quote (fun _ _ _ _ _ same => absurd same slash)
    (fun _ _ same => absurd same slash) fun same => absurd same slash, if_pos control]

theorem readPieces_cut_unit (blank : isBlank b = true) (tail : List UInt8)
    (short : tail.length < 4) : readPieces (0x5c :: 0x75 :: (tail ++ [b])) = none := by
  have unit := (escape_of_blank blank).2
  match tail with
  | [] | [_] | [_, _] =>
    rw [readPieces.eq_4 _ _ (by simp)]
    rfl
  | [x, y, z] =>
    simp only [List.cons_append, List.nil_append, readPieces.eq_3, unit]
    simp
  | _ :: _ :: _ :: _ :: _ =>
    simp only [List.length_cons] at short
    omega

theorem readPieces_blank (blank : isBlank b = true) (bytes : List UInt8) :
    readPieces (bytes ++ [b]) = (readPieces bytes).map (leaving b) := by
  fun_induction readPieces bytes with
  | case1 =>
    rw [List.nil_append, readPieces.eq_6 b [] (ne_of_blank blank (by decide)) (by simp) (by simp)
      fun slash => absurd slash (ne_of_blank blank (by decide))]
    split <;> rfl
  | case2 tail => rfl
  | case3 x y z w tail ih =>
    simp only [List.cons_append, readPieces.eq_3, ih]
    cases hexValue? x <;> cases hexValue? y <;> cases hexValue? z <;> cases hexValue? w <;>
      cases readPieces tail <;> rfl
  | case4 letter tail other ih =>
    by_cases unit : letter = 0x75
    · subst unit
      refine readPieces_cut_unit blank tail ?_
      rcases tail with _ | ⟨x, _ | ⟨y, _ | ⟨z, _ | ⟨w, rest⟩⟩⟩⟩
      case cons.cons.cons.cons => exact (other x y z w rest rfl rfl).elim
      all_goals simp
    · rw [List.cons_append, List.cons_append, readPieces.eq_4 letter _ fun _ _ _ _ _ same =>
        absurd same unit, ih]
      cases shortEscape? letter <;> cases readPieces tail <;> rfl
  | case5 =>
    have different := ne_of_blank blank (show isBlank 0x75 = false by decide)
    rw [List.cons_append, List.nil_append, readPieces.eq_4 b _ fun _ _ _ _ _ same =>
      absurd same different, (escape_of_blank blank).1]
    rfl
  | case6 c tail _ _ _ _ control => exact readPieces_control control (tail ++ [b])
  | case7 c tail quote _ short alone printable ih =>
    have slash : c ≠ 0x5c := by
      rintro rfl
      cases tail with
      | nil => exact alone rfl rfl
      | cons letter tail => exact short letter tail rfl rfl
    rw [List.cons_append, readPieces_plain c _ quote slash printable, ih]
    cases readPieces tail <;> rfl

theorem readString_blank (blank : isBlank b = true) (bytes : List UInt8) :
    readString (bytes ++ [b]) = (readString bytes).map (leaving b) := by
  rw [readString, readString, readPieces_blank blank]
  cases readPieces bytes <;> rfl

/-! ## Numbers -/

theorem head_blank (blank : isBlank b = true) {bytes : List UInt8} {c : UInt8}
    (solid : isBlank c = false) (other : bytes.head? ≠ some c) :
    (bytes ++ [b]).head? ≠ some c := by
  cases bytes with
  | nil => simpa using ne_of_blank blank solid
  | cons d rest => exact other

theorem readDigits_blank (blank : isBlank b = true) (bytes : List UInt8) :
    readDigits (bytes ++ [b]) = (readDigits bytes).map (leaving b) := by
  have stop := isDigitByte_of_blank blank
  have stays : (bytes ++ [b]).takeWhile isDigitByte = bytes.takeWhile isDigitByte ∧
      (bytes ++ [b]).dropWhile isDigitByte = bytes.dropWhile isDigitByte ++ [b] := by
    induction bytes with
    | nil => simp [stop]
    | cons c rest ih =>
      cases digit : isDigitByte c with
      | false => simp [digit]
      | true => simp [digit, ih]
  rw [readDigits, readDigits, stays.1, stays.2]
  split <;> rfl

theorem readWhole_nonzero {bytes : List UInt8} (nonzero : bytes.head? ≠ some 0x30) :
    readWhole bytes = readDigits bytes := by
  rw [readWhole.eq_def]
  split
  · exact absurd rfl nonzero
  · rfl

theorem readWhole_blank (blank : isBlank b = true) (bytes : List UInt8) :
    readWhole (bytes ++ [b]) = (readWhole bytes).map (leaving b) := by
  by_cases zero : bytes.head? = some 0x30
  · obtain ⟨rest, rfl⟩ : ∃ rest, bytes = 0x30 :: rest := List.head?_eq_some_iff.mp zero
    cases rest with
    | nil =>
      rw [List.cons_append, List.nil_append, readWhole.eq_2, isDigitByte_of_blank blank]
      rfl
    | cons c rest =>
      rw [List.cons_append, List.cons_append, readWhole.eq_2, readWhole.eq_2]
      split <;> rfl
  · rw [readWhole_nonzero (head_blank blank (by decide) zero), readWhole_nonzero zero,
      readDigits_blank blank]

theorem readFraction_blank (blank : isBlank b = true) (bytes : List UInt8) :
    readFraction (bytes ++ [b]) = (readFraction bytes).map (leaving b) := by
  have whole : ∀ {bytes : List UInt8}, bytes.head? ≠ some 0x2e →
      readFraction bytes = some ([], bytes) := by
    intro bytes other
    rw [readFraction.eq_def]
    split
    · exact absurd rfl other
    · rfl
  by_cases point : bytes.head? = some 0x2e
  · obtain ⟨rest, rfl⟩ : ∃ rest, bytes = 0x2e :: rest := List.head?_eq_some_iff.mp point
    exact readDigits_blank blank rest
  · rw [whole (head_blank blank (by decide) point), whole point]
    rfl

theorem readSignedDigits_blank (blank : isBlank b = true) (bytes : List UInt8) :
    readSignedDigits (bytes ++ [b]) = (readSignedDigits bytes).map (leaving b) := by
  have unsigned : ∀ {bytes : List UInt8}, bytes.head? ≠ some 0x2d → bytes.head? ≠ some 0x2b →
      readSignedDigits bytes = (readDigits bytes).map fun found =>
        (some (false, found.1), found.2) := by
    intro bytes minus plus
    rw [readSignedDigits.eq_def]
    split
    · exact absurd rfl minus
    · exact absurd rfl plus
    · rfl
  by_cases minus : bytes.head? = some 0x2d
  · obtain ⟨rest, rfl⟩ : ∃ rest, bytes = 0x2d :: rest := List.head?_eq_some_iff.mp minus
    rw [List.cons_append, readSignedDigits, readSignedDigits, readDigits_blank blank]
    cases readDigits rest <;> rfl
  by_cases plus : bytes.head? = some 0x2b
  · obtain ⟨rest, rfl⟩ : ∃ rest, bytes = 0x2b :: rest := List.head?_eq_some_iff.mp plus
    rw [List.cons_append, readSignedDigits, readSignedDigits, readDigits_blank blank]
    cases readDigits rest <;> rfl
  · rw [unsigned (head_blank blank (by decide) minus) (head_blank blank (by decide) plus),
      unsigned minus plus, readDigits_blank blank]
    cases readDigits bytes <;> rfl

theorem readExponent_blank (blank : isBlank b = true) (bytes : List UInt8) :
    readExponent (bytes ++ [b]) = (readExponent bytes).map (leaving b) := by
  have whole : ∀ {bytes : List UInt8}, bytes.head? ≠ some 0x65 → bytes.head? ≠ some 0x45 →
      readExponent bytes = some (none, bytes) := by
    intro bytes lower upper
    rw [readExponent.eq_def]
    split
    · exact absurd rfl lower
    · exact absurd rfl upper
    · rfl
  by_cases lower : bytes.head? = some 0x65
  · obtain ⟨rest, rfl⟩ : ∃ rest, bytes = 0x65 :: rest := List.head?_eq_some_iff.mp lower
    exact readSignedDigits_blank blank rest
  by_cases upper : bytes.head? = some 0x45
  · obtain ⟨rest, rfl⟩ : ∃ rest, bytes = 0x45 :: rest := List.head?_eq_some_iff.mp upper
    exact readSignedDigits_blank blank rest
  · rw [whole (head_blank blank (by decide) lower) (head_blank blank (by decide) upper),
      whole lower upper]
    rfl

theorem readUnsigned_blank (blank : isBlank b = true) (negative : Bool) (bytes : List UInt8) :
    readUnsigned negative (bytes ++ [b]) = (readUnsigned negative bytes).map (leaving b) := by
  rw [readUnsigned, readUnsigned, readWhole_blank blank]
  cases readWhole bytes with
  | none => rfl
  | some found =>
    obtain ⟨whole, rest⟩ := found
    simp only [Option.map_some, leaving, Option.bind_eq_bind, Option.bind_some,
      readFraction_blank blank]
    cases readFraction rest with
    | none => rfl
    | some found =>
      obtain ⟨fraction, rest⟩ := found
      simp only [Option.map_some, leaving, Option.bind_some, readExponent_blank blank]
      cases readExponent rest <;> rfl

theorem readNumber_blank (blank : isBlank b = true) (bytes : List UInt8) :
    readNumber (bytes ++ [b]) = (readNumber bytes).map (leaving b) := by
  have unsigned : ∀ {bytes : List UInt8}, bytes.head? ≠ some 0x2d →
      readNumber bytes = readUnsigned false bytes := by
    intro bytes minus
    rw [readNumber.eq_def]
    split
    · exact absurd rfl minus
    · rfl
  by_cases minus : bytes.head? = some 0x2d
  · obtain ⟨rest, rfl⟩ : ∃ rest, bytes = 0x2d :: rest := List.head?_eq_some_iff.mp minus
    exact readUnsigned_blank blank true rest
  · rw [unsigned (head_blank blank (by decide) minus), unsigned minus,
      readUnsigned_blank blank]

/-! ## Documents without parts -/

theorem expectWord_blank (blank : isBlank b = true) (word : List UInt8)
    (solid : word.any isBlank = false) (bytes : List UInt8) :
    expectWord word (bytes ++ [b]) = (expectWord word bytes).map (· ++ [b]) := by
  have same : word.isPrefixOf (bytes ++ [b]) = word.isPrefixOf bytes := by
    rw [Bool.eq_iff_iff, List.isPrefixOf_iff_prefix, List.isPrefixOf_iff_prefix,
      List.prefix_concat_iff]
    constructor
    · rintro (rfl | inside)
      · simp [blank] at solid
      · exact inside
    · exact .inr
  rw [expectWord, expectWord, same]
  split
  · rename_i found
    obtain ⟨tail, rfl⟩ := List.isPrefixOf_iff_prefix.mp found
    rw [List.append_assoc, List.drop_left, List.drop_left]
    rfl
  · rfl

def leafLetters : List UInt8 :=
  [0x22, 0x6e, 0x74, 0x66]

theorem readLeaf_number (c : UInt8) (rest : List UInt8) (other : c ∉ leafLetters) :
    readLeaf (c :: rest) =
      (readNumber (c :: rest)).map fun (n, rest) => (.number n, rest) := by
  simp only [leafLetters, List.mem_cons, List.not_mem_nil, or_false, not_or] at other
  obtain ⟨quote, n, t, f⟩ := other
  rw [readLeaf.eq_def]
  split
  case h_1 same => cases same
  case h_6 => rfl
  all_goals
    rename_i same
    cases same
    contradiction

theorem readLeaf_blank (blank : isBlank b = true) (bytes : List UInt8) :
    readLeaf (bytes ++ [b]) = (readLeaf bytes).map (leaving b) := by
  cases bytes with
  | nil =>
    have solid : leafLetters.any isBlank = false := by decide
    have other : b ∉ leafLetters := fun member => List.any_eq_false.mp solid b member blank
    have empty := readNumber_blank blank []
    rw [List.nil_append] at empty ⊢
    rw [readLeaf_number b [] other, empty]
    rfl
  | cons c rest =>
    by_cases letter : c ∈ leafLetters
    · simp only [leafLetters, List.mem_cons, List.not_mem_nil, or_false] at letter
      rcases letter with rfl | rfl | rfl | rfl
      · rw [List.cons_append, readLeaf, readLeaf, readString_blank blank]
        cases readString rest <;> rfl
      all_goals
        rw [List.cons_append, readLeaf, readLeaf, expectWord_blank blank _ (by decide)]
        cases expectWord _ rest <;> rfl
    · have number := readNumber_blank blank (c :: rest)
      rw [List.cons_append] at number ⊢
      rw [readLeaf_number c _ letter, readLeaf_number c _ letter, number]
      cases readNumber (c :: rest) <;> rfl

end Leaves

/-! ## Steps of a document -/

def nextByte (bytes : List UInt8) : Option (UInt8 × List UInt8) :=
  match skipBlanks bytes with
  | [] => none
  | c :: rest => some (c, rest)

theorem nextByte_of_cons {bytes rest : List UInt8} {c : UInt8}
    (front : skipBlanks bytes = c :: rest) : nextByte bytes = some (c, rest) := by
  rw [nextByte, front]

theorem nextByte_of_nil {bytes : List UInt8} (front : skipBlanks bytes = []) :
    nextByte bytes = none := by
  rw [nextByte, front]

theorem nextByte_takes {bytes rest : List UInt8} {c : UInt8}
    (found : nextByte bytes = some (c, rest)) : rest.length < bytes.length := by
  have blanks := skipBlanks_le bytes
  cases front : skipBlanks bytes with
  | nil =>
    rw [nextByte_of_nil front] at found
    cases found
  | cons d tail =>
    rw [nextByte_of_cons front] at found
    cases found
    rw [front, List.length_cons] at blanks
    exact blanks

theorem nextByte_bind_none {β : Type} {bytes : List UInt8} {step : UInt8 × List UInt8 → Option β}
    (fails : ∀ c rest, skipBlanks bytes = c :: rest → step (c, rest) = none) :
    (nextByte bytes).bind step = none := by
  cases front : skipBlanks bytes with
  | nil =>
    rw [nextByte_of_nil front]
    rfl
  | cons c rest =>
    rw [nextByte_of_cons front]
    exact fails c rest front

section Parts

variable {α : Type} {close : UInt8}

/-- What follows an opening bracket: the closing one, or some parts. -/
def readOpened (close : UInt8) (make : List α → Json)
    (parts : List UInt8 → Option (List α × List UInt8)) (bytes : List UInt8) :
    Option (Json × List UInt8) :=
  (nextByte bytes).bind fun next =>
    if next.1 = close then some (make [], next.2)
    else (parts (next.1 :: next.2)).map fun found => (make found.1, found.2)

/-- What follows a part: a comma and the others, or the closing bracket. -/
def readOthers (close : UInt8) (parts : List UInt8 → Option (List α × List UInt8)) (part : α)
    (bytes : List UInt8) : Option (List α × List UInt8) :=
  (nextByte bytes).bind fun next =>
    if next.1 = 0x2c then (parts next.2).map fun found => (part :: found.1, found.2)
    else if next.1 = close then some ([part], next.2)
    else none

variable {make : List α → Json} {parts : List UInt8 → Option (List α × List UInt8)} {part : α}
  {bytes tail : List UInt8}

theorem readOpened_close (closed : skipBlanks bytes = close :: tail) :
    readOpened close make parts bytes = some (make [], tail) := by
  rw [readOpened, nextByte_of_cons closed, Option.bind_some, if_pos rfl]

theorem readOpened_parts (unclosed : ∀ tail, skipBlanks bytes ≠ close :: tail)
    (empty : parts [] = none) :
    readOpened close make parts bytes =
      (parts (skipBlanks bytes)).map fun found => (make found.1, found.2) := by
  cases front : skipBlanks bytes with
  | nil =>
    rw [readOpened, nextByte_of_nil front, empty]
    rfl
  | cons c tail =>
    have other : c ≠ close := by
      rintro rfl
      exact unclosed tail front
    rw [readOpened, nextByte_of_cons front, Option.bind_some, if_neg other]

theorem readOthers_comma (comma : skipBlanks bytes = 0x2c :: tail) :
    readOthers close parts part bytes =
      (parts tail).map fun found => (part :: found.1, found.2) := by
  rw [readOthers, nextByte_of_cons comma, Option.bind_some, if_pos rfl]

theorem readOthers_close (bracket : close ≠ 0x2c) (closed : skipBlanks bytes = close :: tail) :
    readOthers close parts part bytes = some ([part], tail) := by
  rw [readOthers, nextByte_of_cons closed, Option.bind_some, if_neg bracket, if_pos rfl]

theorem readOthers_none (comma : ∀ tail, skipBlanks bytes ≠ 0x2c :: tail)
    (unclosed : ∀ tail, skipBlanks bytes ≠ close :: tail) :
    readOthers close parts part bytes = none := by
  refine nextByte_bind_none fun c tail front => ?_
  have noComma : c ≠ 0x2c := by
    rintro rfl
    exact comma tail front
  have noClose : c ≠ close := by
    rintro rfl
    exact unclosed tail front
  rw [if_neg noComma, if_neg noClose]

end Parts

theorem readItems_nil (fuel : Nat) : readItems fuel [] = none := by
  cases fuel with
  | zero => rfl
  | succ fuel => cases fuel <;> rfl

theorem readMembers_nil (fuel : Nat) : readMembers fuel [] = none := by
  cases fuel <;> rfl

theorem readDocument_eq (fuel : Nat) (bytes : List UInt8) :
    readDocument (fuel + 1) bytes =
      (nextByte bytes).bind fun next =>
        if next.1 = 0x5b then readOpened 0x5d .array (readItems fuel) next.2
        else if next.1 = 0x7b then readOpened 0x7d .object (readMembers fuel) next.2
        else readLeaf (next.1 :: next.2) := by
  rw [readDocument.eq_def]
  dsimp only
  split
  · rename_i rest bracket
    rw [nextByte_of_cons bracket, Option.bind_some, if_pos rfl]
    split
    · rename_i tail closed
      rw [readOpened_close closed]
    · rename_i others
      rw [readOpened_parts others (readItems_nil fuel)]
  · rename_i rest brace
    have noBracket : (0x7b : UInt8) ≠ 0x5b := by decide
    rw [nextByte_of_cons brace, Option.bind_some, if_neg noBracket, if_pos rfl]
    split
    · rename_i tail closed
      rw [readOpened_close closed]
    · rename_i others
      rw [readOpened_parts others (readMembers_nil fuel)]
  · rename_i noArray noObject
    cases front : skipBlanks bytes with
    | nil =>
      rw [nextByte_of_nil front]
      rfl
    | cons c rest =>
      have noBracket : c ≠ 0x5b := by
        rintro rfl
        exact noArray rest front
      have noBrace : c ≠ 0x7b := by
        rintro rfl
        exact noObject rest front
      rw [nextByte_of_cons front, Option.bind_some, if_neg noBracket, if_neg noBrace]

theorem readItems_eq (fuel : Nat) (bytes : List UInt8) :
    readItems (fuel + 1) bytes =
      (readDocument fuel bytes).bind fun item =>
        readOthers 0x5d (readItems fuel) item.1 item.2 := by
  rw [readItems, Option.bind_eq_bind]
  refine Option.bind_congr fun found _ => ?_
  obtain ⟨item, rest⟩ := found
  dsimp only
  split
  · rename_i tail comma
    rw [readOthers_comma comma]
    cases readItems fuel tail <;> rfl
  · rename_i tail closed
    rw [readOthers_close (by decide) closed]
    rfl
  · rename_i noComma noClose
    rw [readOthers_none noComma noClose]

def readKey (bytes : List UInt8) : Option (Option String × List UInt8) :=
  (nextByte bytes).bind fun quote =>
    if quote.1 = 0x22 then
      (readString quote.2).bind fun key =>
        (nextByte key.2).bind fun colon =>
          if colon.1 = 0x3a then some (key.1, colon.2) else none
    else none

theorem readMembers_eq (fuel : Nat) (bytes : List UInt8) :
    readMembers (fuel + 1) bytes =
      (readKey bytes).bind fun key =>
        (readDocument fuel key.2).bind fun item =>
          readOthers 0x7d (readMembers fuel) (key.1, item.1) item.2 := by
  rw [readMembers.eq_def, readKey]
  dsimp only
  split
  · rename_i rest quote
    rw [nextByte_of_cons quote, Option.bind_some, if_pos rfl, Option.bind_eq_bind,
      Option.bind_assoc]
    refine Option.bind_congr fun named _ => ?_
    obtain ⟨key, rest⟩ := named
    dsimp only
    split
    · rename_i rest colon
      rw [nextByte_of_cons colon, Option.bind_some, if_pos rfl, Option.bind_eq_bind,
        Option.bind_some]
      refine Option.bind_congr fun found _ => ?_
      obtain ⟨item, rest⟩ := found
      dsimp only
      split
      · rename_i tail comma
        rw [readOthers_comma comma]
        cases readMembers fuel tail <;> rfl
      · rename_i tail closed
        rw [readOthers_close (by decide) closed]
        rfl
      · rename_i noComma noClose
        rw [readOthers_none noComma noClose]
    · rename_i noColon
      rw [nextByte_bind_none]
      · rfl
      · intro c tail front
        refine if_neg ?_
        rintro rfl
        exact noColon tail front
  · rename_i noQuote
    rw [nextByte_bind_none]
    · rfl
    · intro c tail front
      refine if_neg ?_
      rintro rfl
      exact noQuote tail front

/-! ## A blank after the bytes -/

section Steps

variable {b : UInt8} {α : Type}

theorem nextByte_blank (blank : isBlank b = true) (bytes : List UInt8) :
    nextByte (bytes ++ [b]) = (nextByte bytes).map (leaving b) := by
  have stays : skipBlanks (bytes ++ [b]) =
      if (skipBlanks bytes).isEmpty then [] else skipBlanks bytes ++ [b] := by
    rw [skipBlanks, List.dropWhile_append, List.dropWhile_cons_of_pos blank]
    rfl
  cases front : skipBlanks bytes with
  | nil =>
    rw [front] at stays
    rw [nextByte_of_nil stays, nextByte_of_nil front]
    rfl
  | cons c rest =>
    rw [front] at stays
    rw [nextByte_of_cons stays, nextByte_of_cons front]
    rfl

/-- On fewer bytes than the limit the second reader, with a blank more before it, reads what
the first one does. -/
def Agrees (b : UInt8) (limit : Nat) (first second : List UInt8 → Option (α × List UInt8)) :
    Prop :=
  ∀ bytes, bytes.length < limit → second (bytes ++ [b]) = (first bytes).map (leaving b)

variable {limit : Nat} {close : UInt8} {parts more : List UInt8 → Option (List α × List UInt8)}

theorem readOpened_blank (blank : isBlank b = true) (make : List α → Json)
    (agree : Agrees b limit parts more) :
    Agrees b limit (readOpened close make parts) (readOpened close make more) := by
  intro bytes short
  rw [readOpened, readOpened, nextByte_blank blank]
  cases next : nextByte bytes with
  | none => rfl
  | some found =>
    obtain ⟨c, rest⟩ := found
    have inside : (c :: rest).length < limit := by
      have taken := nextByte_takes next
      rw [List.length_cons]
      omega
    have front := agree (c :: rest) inside
    rw [List.cons_append] at front
    simp only [Option.map_some, Option.bind_some, leaving, front]
    split
    · rfl
    · cases parts (c :: rest) <;> rfl

theorem readOthers_blank (blank : isBlank b = true) (part : α)
    (agree : Agrees b limit parts more) :
    Agrees b (limit + 1) (readOthers close parts part) (readOthers close more part) := by
  intro bytes short
  rw [readOthers, readOthers, nextByte_blank blank]
  cases next : nextByte bytes with
  | none => rfl
  | some found =>
    obtain ⟨c, rest⟩ := found
    have inside : rest.length < limit := by
      have taken := nextByte_takes next
      omega
    simp only [Option.map_some, Option.bind_some, leaving, agree rest inside]
    split
    · cases parts rest <;> rfl
    · split <;> rfl

end Steps

/-- With this fuel, or with more, a reader of few enough bytes reads the same whether or not
a blank follows them. -/
structure FuelEnough (b : UInt8) (fuel more : Nat) : Prop where
  document : ∀ limit, 2 * limit ≤ fuel + 2 →
    Agrees b limit (readDocument fuel) (readDocument more)
  items : ∀ limit, 2 * limit ≤ fuel + 1 → Agrees b limit (readItems fuel) (readItems more)
  members : ∀ limit, 2 * limit ≤ fuel + 1 → Agrees b limit (readMembers fuel) (readMembers more)

section Fuel

variable {b : UInt8} {fuel more : Nat}

theorem readDocument_blank (blank : isBlank b = true) (inner : FuelEnough b fuel more)
    (limit : Nat) (enough : 2 * limit ≤ fuel + 1 + 2) :
    Agrees b limit (readDocument (fuel + 1)) (readDocument (more + 1)) := by
  intro bytes short
  rw [readDocument_eq, readDocument_eq, nextByte_blank blank]
  cases next : nextByte bytes with
  | none => rfl
  | some found =>
    obtain ⟨c, rest⟩ := found
    have inside : rest.length < limit - 1 := by
      have taken := nextByte_takes next
      omega
    have items := inner.items (limit - 1) (by omega)
    have members := inner.members (limit - 1) (by omega)
    simp only [Option.map_some, Option.bind_some, leaving]
    split
    · exact readOpened_blank blank _ items rest inside
    split
    · exact readOpened_blank blank _ members rest inside
    · exact readLeaf_blank blank (c :: rest)

theorem readDocument_shortens {bytes rest : List UInt8} {json : Json}
    (found : readDocument fuel bytes = some (json, rest)) : rest.length < bytes.length := by
  have taken := (takesWeight fuel).document bytes json rest found
  have heavy := weight_pos json
  omega

theorem readItems_blank (blank : isBlank b = true) (inner : FuelEnough b fuel more)
    (limit : Nat) (enough : 2 * limit ≤ fuel + 1 + 1) :
    Agrees b limit (readItems (fuel + 1)) (readItems (more + 1)) := by
  intro bytes short
  rw [readItems_eq, readItems_eq, inner.document limit enough bytes short]
  cases first : readDocument fuel bytes with
  | none => rfl
  | some found =>
    obtain ⟨item, rest⟩ := found
    have inside : rest.length < limit - 1 + 1 := by
      have taken := readDocument_shortens first
      omega
    exact readOthers_blank blank item (inner.items (limit - 1) (by omega)) rest inside

theorem readKey_blank (blank : isBlank b = true) (bytes : List UInt8) :
    readKey (bytes ++ [b]) = (readKey bytes).map (leaving b) := by
  rw [readKey, readKey, nextByte_blank blank]
  cases nextByte bytes with
  | none => rfl
  | some found =>
    obtain ⟨quote, rest⟩ := found
    simp only [Option.map_some, Option.bind_some, leaving, readString_blank blank]
    split
    case isFalse => rfl
    cases readString rest with
    | none => rfl
    | some found =>
      obtain ⟨key, rest⟩ := found
      simp only [Option.map_some, Option.bind_some, leaving, nextByte_blank blank]
      cases nextByte rest with
      | none => rfl
      | some found =>
        obtain ⟨colon, rest⟩ := found
        simp only [Option.map_some, Option.bind_some, leaving]
        split <;> rfl

theorem readKey_shortens {bytes rest : List UInt8} {key : Option String}
    (found : readKey bytes = some (key, rest)) : rest.length < bytes.length := by
  obtain ⟨⟨quote, body⟩, next, found⟩ := Option.bind_eq_some_iff.mp found
  split at found
  case isFalse => cases found
  obtain ⟨⟨text, left⟩, named, found⟩ := Option.bind_eq_some_iff.mp found
  obtain ⟨⟨colon, tail⟩, later, found⟩ := Option.bind_eq_some_iff.mp found
  split at found
  case isFalse => cases found
  cases found
  have front := nextByte_takes next
  have string := readString_takes _ _ _ named
  have back := nextByte_takes later
  have quotes := two_le_textWeight text
  dsimp only at string back ⊢
  omega

theorem readMembers_blank (blank : isBlank b = true) (inner : FuelEnough b fuel more)
    (limit : Nat) (enough : 2 * limit ≤ fuel + 1 + 1) :
    Agrees b limit (readMembers (fuel + 1)) (readMembers (more + 1)) := by
  intro bytes short
  rw [readMembers_eq, readMembers_eq, readKey_blank blank]
  cases named : readKey bytes with
  | none => rfl
  | some found =>
    obtain ⟨key, body⟩ := found
    have named := readKey_shortens named
    simp only [Option.map_some, Option.bind_some, leaving,
      inner.document limit enough body (by omega)]
    cases first : readDocument fuel body with
    | none => rfl
    | some found =>
      obtain ⟨item, rest⟩ := found
      have inside : rest.length < limit - 1 + 1 := by
        have taken := readDocument_shortens first
        omega
      exact readOthers_blank blank (key, item) (inner.members (limit - 1) (by omega)) rest inside

theorem fuelEnough (blank : isBlank b = true) (fuel more : Nat) (enough : fuel ≤ more) :
    FuelEnough b fuel more := by
  induction fuel generalizing more with
  | zero =>
    -- Only a document may be read without fuel, and then of no bytes at all.
    constructor
    · intro limit few bytes short
      obtain rfl : bytes = [] := List.eq_nil_of_length_eq_zero (by omega)
      cases more with
      | zero => rfl
      | succ more =>
        rw [readDocument_eq, nextByte_blank blank]
        rfl
    all_goals
      intro limit few bytes short
      omega
  | succ fuel ih =>
    obtain ⟨more, rfl⟩ := Nat.exists_eq_add_of_le' enough
    have inner := ih (more + fuel) (by omega)
    exact ⟨readDocument_blank blank inner, readItems_blank blank inner,
      readMembers_blank blank inner⟩

end Fuel

theorem read_blank {b : UInt8} (blank : isBlank b = true) (bytes : List UInt8) :
    read (bytes ++ [b]) = (read bytes).map (leaving b) := by
  have more : 2 * bytes.length + 2 ≤ 2 * (bytes ++ [b]).length + 2 := by
    rw [List.length_append]
    omega
  have fuel := fuelEnough blank _ _ more
  exact fuel.document (bytes.length + 1) (by omega) bytes (by omega)

theorem isSpent_blank {b : UInt8} (blank : isBlank b = true) (bytes : List UInt8) :
    isSpent (bytes ++ [b]) = isSpent bytes := by
  rw [isSpent, isSpent, skipBlanks, skipBlanks, List.dropWhile_append,
    List.dropWhile_cons_of_pos blank]
  cases front : bytes.dropWhile isBlank <;> rfl

end TableLoad.Json

import Mathlib
import TableLoad.Proofs.Calendar.Reading
import TableLoad.Source.Scalar
import TableLoad.Value.Text

/-!
# Scalars read back from their texts

Truth values, integers, dates and timestamps are read back from the text that they are
written as.  A date begins like a number but goes on with a dash, where no number does,
and behind a year of at least four digits no other form of dates goes on.
-/

set_option autoImplicit false

namespace TableLoad.Source

open Calendar

/-! ## Texts that begin like a number -/

def EndsWithDigit (text : List Char) : Prop :=
  ∃ c, text.getLast? = some c ∧ Digits.isDigit c = true

theorem endsWithDigit_append (front : List Char) {text : List Char} (ends : EndsWithDigit text) :
    EndsWithDigit (front ++ text) := by
  obtain ⟨c, last, digit⟩ := ends
  exact ⟨c, by rw [List.getLast?_append, last, Option.some_or], digit⟩

theorem endsWithDigit_cons (c : Char) {text : List Char} (ends : EndsWithDigit text) :
    EndsWithDigit (c :: text) :=
  endsWithDigit_append [c] ends

theorem endsWithDigit_digits {digits : List Char} (present : digits ≠ [])
    (all : ∀ c ∈ digits, Digits.isDigit c = true) : EndsWithDigit digits :=
  ⟨_, List.getLast?_eq_some_getLast present, all _ (List.getLast_mem present)⟩

theorem endsWithDigit_padded (width n : Nat) : EndsWithDigit (Digits.padded width n) :=
  endsWithDigit_digits (Digits.padded_ne_nil width n) (Digits.isDigit_padded width n)

structure IsNumeric (text : List Char) : Prop where
  first : ∃ c rest, text = c :: rest ∧ Digits.BeginsNumber c
  last : EndsWithDigit text

theorem toLower_of_digit {c : Char} (digit : Digits.isDigit c = true) : c.toLower = c := by
  apply Char.toLower_eq_of_not_isUpper
  intro upper
  simp only [Char.isUpper, decide_eq_true_eq] at upper
  have high : 65 ≤ c.toNat := upper.1
  have low := ((Digits.isDigit_iff c).mp digit).2
  omega

namespace IsNumeric

variable {text : List Char}

theorem trim_eq (numeric : IsNumeric text) : Unicode.trim text = text := by
  obtain ⟨⟨c, rest, starts, begins⟩, last, ends, digit⟩ := numeric
  apply Unicode.trim_eq_self
  · intro d head
    rw [starts] at head
    cases head
    exact Unicode.not_whiteSpace_of_begins begins
  · intro d tail
    cases ends.symm.trans tail
    exact Unicode.not_whiteSpace_of_begins (.inr (.inr digit))

theorem not_word (numeric : IsNumeric text) (word : String) {letter : Char} {letters : List Char}
    (spelled : word.toList = letter :: letters) (lower : Digits.isDigit letter = false)
    (unsigned : letter ≠ '-' ∧ letter ≠ '+') : isWord word text = false := by
  obtain ⟨c, rest, starts, sign⟩ := numeric.first
  have different : c.toLower ≠ letter := by
    rcases sign with rfl | rfl | digit
    · exact unsigned.1.symm
    · exact unsigned.2.symm
    · rw [toLower_of_digit digit]
      exact Digits.ne_of_isDigit digit lower
  rw [isWord, starts, spelled]
  apply decide_eq_false
  intro same
  exact different (List.cons.inj same).1

theorem spelled_eq (numeric : IsNumeric text) :
    spelled? text =
      ((integer? text).bind Value.ofInteger?).or
        (((double? text).map .double).or
          (((date? text).map .date).or ((timestamp? text).map .timestamp))) := by
  obtain ⟨c, rest, starts, _⟩ := numeric.first
  have present : text.isEmpty = false := by
    rw [starts]
    rfl
  rw [spelled?, present, numeric.not_word "true" rfl rfl (by decide),
    numeric.not_word "false" rfl rfl (by decide)]
  rfl

theorem parseScalar_eq (numeric : IsNumeric text) {value : Value}
    (spelled : spelled? text = some value) : parseScalar (String.ofList text) = value := by
  rw [parseScalar, String.toList_ofList, numeric.trim_eq, spelled]
  rfl

end IsNumeric

/-! ## Integers -/

theorem readSign_of_digit {c : Char} (digit : Digits.isDigit c = true) (rest : List Char) :
    readSign (c :: rest) = (false, c :: rest) := by
  rw [readSign]
  · rintro text same
    cases same
    cases digit
  · rintro text same
    cases same
    cases digit

theorem readSign_ofInt (n : Int) :
    readSign (Digits.ofInt n) = (decide (n < 0), Digits.ofNat n.natAbs) := by
  rw [Digits.ofInt]
  by_cases negative : n < 0
  · rw [if_pos negative, decide_eq_true negative]
    rfl
  · obtain ⟨c, rest, digits, digit⟩ := Digits.ofNat_cons n.natAbs
    rw [if_neg negative, decide_eq_false negative, digits]
    exact readSign_of_digit digit rest

theorem integer_ofInt (n : Int) : integer? (Digits.ofInt n) = some n := by
  have present : (Digits.ofNat n.natAbs).isEmpty = false := by
    rw [List.isEmpty_eq_false_iff]
    exact Digits.ofNat_ne_nil n.natAbs
  have all : (Digits.ofNat n.natAbs).all Digits.isDigit = true :=
    List.all_eq_true.mpr (Digits.isDigit_ofNat n.natAbs)
  rw [integer?, readSign_ofInt]
  dsimp only
  rw [present, all, Digits.value_ofNat]
  exact congrArg some (Digits.signed_natAbs n)

theorem isNumeric_ofInt (n : Int) : IsNumeric (Digits.ofInt n) where
  first := by
    obtain ⟨c, rest, digits, digit⟩ := Digits.ofNat_cons n.natAbs
    rw [Digits.ofInt, digits]
    split
    · exact ⟨'-', c :: rest, rfl, .inl rfl⟩
    · exact ⟨c, rest, rfl, .inr (.inr digit)⟩
  last := endsWithDigit_append _
    (endsWithDigit_digits (Digits.ofNat_ne_nil n.natAbs) (Digits.isDigit_ofNat n.natAbs))

theorem parseScalar_ofInt (n : Int) {value : Value} (fits : Value.ofInteger? n = some value) :
    parseScalar (String.ofList (Digits.ofInt n)) = value := by
  apply (isNumeric_ofInt n).parseScalar_eq
  rw [(isNumeric_ofInt n).spelled_eq, integer_ofInt, Option.bind_some, fits, Option.some_or]

theorem ofInteger_int (n : Int32) : Value.ofInteger? n.toInt = some (.int n) := by
  have low := n.le_toInt
  have high := n.toInt_lt
  rw [Value.ofInteger?, if_pos ⟨by omega, by omega⟩, Int32.ofInt_toInt]

theorem ofInteger_long (n : Int64) (beyond : n.toInt < -2147483648 ∨ 2147483647 < n.toInt) :
    Value.ofInteger? n.toInt = some (.long n) := by
  have low := n.le_toInt
  have high := n.toInt_lt
  rw [Value.ofInteger?, if_neg (by omega), if_pos ⟨by omega, by omega⟩, Int64.ofInt_toInt]

/-! ## Dates -/

section Dated

variable (year : Int) (rest : List Char)

theorem readSign_yearText :
    ∃ negative, readSign (yearText year ++ rest) =
      (negative, Digits.padded 4 year.natAbs ++ rest) := by
  obtain ⟨c, more, digits, digit⟩ := Digits.padded_cons 4 year.natAbs
  rw [yearText]
  split
  · rw [digits]
    exact ⟨false, readSign_of_digit digit (more ++ rest)⟩
  · split
    · exact ⟨true, rfl⟩
    · exact ⟨false, rfl⟩

theorem integer_dated : integer? (yearText year ++ '-' :: rest) = none := by
  obtain ⟨negative, signed⟩ := readSign_yearText year ('-' :: rest)
  have broken : (Digits.padded 4 year.natAbs ++ '-' :: rest).all Digits.isDigit = false := by
    rw [List.all_eq_false]
    exact ⟨'-', by simp, by decide⟩
  rw [integer?, signed]
  dsimp only
  rw [broken, Bool.not_false, Bool.or_true, if_pos rfl]

theorem double_dated : double? (yearText year ++ '-' :: rest) = none := by
  obtain ⟨negative, signed⟩ := readSign_yearText year ('-' :: rest)
  have taken := Digits.takeAll_append (Digits.padded 4 year.natAbs) ('-' :: rest)
    (Digits.isDigit_padded 4 year.natAbs) (Digits.endsDigits_cons rfl rest)
  rw [double?, signed]
  dsimp only
  rw [taken]
  simp [exponent?, Digits.padded_ne_nil]

/-- Behind two digits a year goes on with a third, and behind a sign there is no field. -/
theorem read_field_year (reading : Reading) (which : Calendar.Field) {c : Char}
    (other : Digits.isDigit c = false) (parts : Pattern) :
    Pattern.read? reading (.field which :: .literal c :: parts) (yearText year ++ rest) = none := by
  have signed : ∀ sign more, (sign = '-' ∨ sign = '+') →
      Pattern.read? reading (.field which :: .literal c :: parts) (sign :: more) = none := by
    intro sign more either
    have unread : Digits.read? 2 (sign :: more) = none := by
      rcases either with rfl | rfl
      · rfl
      · rfl
    have visible : Unicode.isWhiteSpace sign = false :=
      Unicode.not_whiteSpace_of_begins (either.imp_right .inl)
    rw [Pattern.read?, Part.read?, Unicode.trimStart_cons _ _ visible, unread]
    rfl
  rw [yearText]
  split
  · rename_i plain
    have size := Digits.length_padded 4 year.natAbs (by decide) (by omega)
    obtain ⟨n, d, more, two, digit⟩ := Digits.read_within 2 (Digits.padded 4 year.natAbs) rest
      (by decide) (by omega) (Digits.isDigit_padded 4 year.natAbs)
    have different : c ≠ d := (Digits.ne_of_isDigit digit other).symm
    have taken : Part.read? reading (Digits.padded 4 year.natAbs ++ rest) (.field which) =
        some (reading.set n which, d :: more) := by
      rw [Part.read?, trimStart_padded, two]
      rfl
    rw [Pattern.read_cons taken, Pattern.read_other _ _ different]
  · split
    · exact signed '-' _ (.inl rfl)
    · exact signed '+' _ (.inr rfl)

end Dated

/-! ## Dates and timestamps -/

theorem datePatterns_eq :
    datePatterns =
      [dated [],
        [.field .month, .literal '/', .field .day, .literal '/', .year],
        [.field .day, .literal '-', .field .month, .literal '-', .year],
        [.field .day, .literal '/', .field .month, .literal '/', .year]] :=
  rfl

theorem timestampPatterns_eq :
    ∃ others, timestampPatterns =
      dated (clocked []) ::
      dated (.literal 'T' :: (clocked []).tail) ::
      dated (clocked [.fraction]) :: others :=
  ⟨_, rfl⟩

theorem date_starts (date : Date) (more : List Char) :
    ∃ rest, date.text ++ more = yearText date.civil.year ++ '-' :: rest := by
  rw [Date.text, Civil.text]
  simp only [List.append_assoc, List.cons_append]
  exact ⟨_, rfl⟩

theorem date_text (date : Date) : date? date.text = some date := by
  have read : (dated []).date? date.text = some date := by
    have parts := read_dated date [] []
    rw [List.append_nil] at parts
    rw [Pattern.date?, parts, Pattern.read?]
    exact date.ofCivil_civil
  rw [date?, datePatterns_eq, List.findSome?_cons, read]

/-- Behind its date a timestamp goes on, so no form of dates reads it as a whole. -/
theorem date_timestampText (timestamp : Timestamp) : date? timestamp.text = none := by
  obtain ⟨rest, text⟩ : ∃ rest, timestamp.text = yearText timestamp.date.civil.year ++ '-' :: rest :=
    date_starts timestamp.date (' ' :: timestamp.time.text)
  have whole : (dated []).date? timestamp.text = none := by
    rw [Pattern.date?, Timestamp.text, read_dated, Pattern.read?]
    rfl
  have others : ∀ which c parts, Digits.isDigit c = false →
      Pattern.date? (.field which :: .literal c :: parts) timestamp.text = none := by
    intro which c parts other
    rw [Pattern.date?, text, read_field_year _ _ _ which other]
    rfl
  rw [date?, datePatterns_eq]
  simp only [List.findSome?_cons, List.findSome?_nil, whole, others _ '/' _ rfl, others _ '-' _ rfl]

theorem timestamp_text (timestamp : Timestamp) :
    timestamp? timestamp.text = some timestamp.shown := by
  obtain ⟨_, _, small⟩ := timestamp.time.shown_bounds
  obtain ⟨others, patterns⟩ := timestampPatterns_eq
  have made : ∀ reading : Reading,
      reading.date? = some timestamp.date → reading.time? = some timestamp.time.shown →
        (do return (⟨← reading.date?, ← reading.time?⟩ : Timestamp)) = some timestamp.shown := by
    intro reading date time
    rw [date, time]
    rfl
  by_cases plain : timestamp.time.shownNanos = 0
  · have read : (dated (clocked [])).timestamp? timestamp.text = some timestamp.shown := by
      rw [Pattern.timestamp?, Timestamp.text, read_dated, read_clocked, plain]
      apply made
      · exact timestamp.date.ofCivil_civil
      · exact timestamp.time.time_of_shown _ rfl rfl rfl plain.symm
    rw [timestamp?, patterns, List.findSome?_cons, read]
  · have leftOver : (dated (clocked [])).timestamp? timestamp.text = none := by
      obtain ⟨width, n, fraction, _⟩ := fractionText_eq _ plain small
      rw [Pattern.timestamp?, Timestamp.text, read_dated, read_clocked, fraction]
      rfl
    have dividedByLetter :
        (dated (.literal 'T' :: (clocked []).tail)).timestamp? timestamp.text = none := by
      rw [Pattern.timestamp?, Timestamp.text, read_dated, Pattern.read_other _ _ (by decide)]
      rfl
    have read : (dated (clocked [.fraction])).timestamp? timestamp.text = some timestamp.shown := by
      rw [Pattern.timestamp?, Timestamp.text, read_dated, read_clocked,
        Pattern.read_cons (Part.read_fraction _ _ plain small)]
      apply made
      · exact timestamp.date.ofCivil_civil
      · exact timestamp.time.time_of_shown _ rfl rfl rfl rfl
    rw [timestamp?, patterns, List.findSome?_cons, leftOver, List.findSome?_cons, dividedByLetter,
      List.findSome?_cons, read]

/-! ## Scalars -/

theorem parseScalar_dated {text rest : List Char} {value : Value} {year : Int}
    (starts : text = yearText year ++ '-' :: rest) (ends : EndsWithDigit text)
    (spelled : ((date? text).map Value.date).or ((timestamp? text).map Value.timestamp) =
      some value) :
    parseScalar (String.ofList text) = value := by
  have numeric : IsNumeric text := by
    constructor
    · obtain ⟨c, more, digits, begins⟩ := yearText_cons year
      refine ⟨c, more ++ '-' :: rest, ?_, begins⟩
      rw [starts, digits, List.cons_append]
    · exact ends
  apply numeric.parseScalar_eq
  rw [numeric.spelled_eq, spelled, starts, integer_dated, double_dated]
  rfl

theorem parseScalar_date (date : Date) : parseScalar (String.ofList date.text) = .date date := by
  obtain ⟨rest, starts⟩ := date_starts date []
  rw [List.append_nil] at starts
  refine parseScalar_dated starts ?_ ?_
  · rw [Date.text, Civil.text]
    exact endsWithDigit_append _ (endsWithDigit_cons '-' (endsWithDigit_padded 2 _))
  · rw [date_text]
    rfl

theorem endsWithDigit_time (time : TimeOfDay) : EndsWithDigit time.text := by
  obtain ⟨_, _, small⟩ := time.shown_bounds
  have seconds : EndsWithDigit
      (Digits.padded 2 time.shownSecond ++ fractionText time.shownNanos) := by
    by_cases plain : time.shownNanos = 0
    · rw [plain, fractionText, if_pos rfl, List.append_nil]
      exact endsWithDigit_padded 2 _
    · obtain ⟨width, n, fraction, _⟩ := fractionText_eq _ plain small
      rw [fraction]
      exact endsWithDigit_append _ (endsWithDigit_cons '.' (endsWithDigit_padded width n))
  have minutes := endsWithDigit_append (Digits.padded 2 (time.seconds / 60 % 60))
    (endsWithDigit_cons ':' seconds)
  rw [time.text_eq]
  exact endsWithDigit_append _ (endsWithDigit_cons ':' minutes)

theorem parseScalar_timestamp (timestamp : Timestamp) :
    parseScalar (String.ofList timestamp.text) = .timestamp timestamp.shown := by
  obtain ⟨rest, starts⟩ := date_starts timestamp.date (' ' :: timestamp.time.text)
  refine parseScalar_dated starts ?_ ?_
  · exact endsWithDigit_append _ (endsWithDigit_cons ' ' (endsWithDigit_time timestamp.time))
  · rw [date_timestampText, timestamp_text]
    rfl

/-- Truth values, ints, longs that are no ints and dates are read back from their texts.
A timestamp is read as the one that its text shows, which is the timestamp itself unless
its time is off the clock. -/
theorem printed_scalars_parsed :
    (∀ b : Bool, parseScalar (Value.bool b).text = .bool b) ∧
      (∀ n : Int32, parseScalar (Value.int n).text = .int n) ∧
      (∀ n : Int64, n.toInt < -2147483648 ∨ 2147483647 < n.toInt →
        parseScalar (Value.long n).text = .long n) ∧
      (∀ date : Date, parseScalar (Value.date date).text = .date date) ∧
      ∀ timestamp : Timestamp,
        parseScalar (Value.timestamp timestamp).text = .timestamp timestamp.shown ∧
          (parseScalar (Value.timestamp timestamp).text = .timestamp timestamp ↔
            timestamp.time.IsOnClock) := by
  refine ⟨?_, ?_, ?_, ?_, ?_⟩
  · intro b
    cases b
    · rfl
    · rfl
  · intro n
    exact parseScalar_ofInt n.toInt (ofInteger_int n)
  · intro n beyond
    exact parseScalar_ofInt n.toInt (ofInteger_long n beyond)
  · intro date
    exact parseScalar_date date
  · intro timestamp
    have parsed : parseScalar (Value.timestamp timestamp).text = .timestamp timestamp.shown :=
      parseScalar_timestamp timestamp
    refine ⟨parsed, ?_⟩
    rw [parsed, Value.timestamp.injEq, timestamp.shown_eq_iff]

theorem outermost_scalars_parsed :
    ((-2147483649 : Int64).toInt < -2147483648 ∨ 2147483647 < (-2147483649 : Int64).toInt) ∧
      parseScalar "-2147483649" = .long (-2147483649) ∧
      parseScalar "-262143-01-01" = .date ⟨firstDay, by decide⟩ ∧
      parseScalar "+262142-12-31 23:59:60.500" =
        .timestamp ⟨⟨lastDay, by decide⟩, ⟨86399, 1500000000, by decide⟩⟩ := by
  obtain ⟨_, _, longs, dates, timestamps⟩ := printed_scalars_parsed
  have long : (Value.long (-2147483649)).text = "-2147483649" := by decide
  have date : (Value.date ⟨firstDay, by decide⟩).text = "-262143-01-01" := by decide
  have timestamp : (Value.timestamp
      ⟨⟨lastDay, by decide⟩, ⟨86399, 1500000000, by decide⟩⟩).text =
        "+262142-12-31 23:59:60.500" := by decide
  have beyond : (-2147483649 : Int64).toInt < -2147483648 ∨
      2147483647 < (-2147483649 : Int64).toInt := by decide
  refine ⟨beyond, ?_, ?_, ?_⟩
  · rw [← long, longs _ beyond]
  · rw [← date, dates]
  · rw [← timestamp]
    exact (timestamps _).2.mpr (.inr rfl)

/-- Four seconds past one, and the fourth is stretched. -/
def stretchedStamp : Timestamp :=
  ⟨⟨738887, by decide⟩, ⟨3604, 1500000000, by decide⟩⟩

/-- A timestamp off the clock is shown, and so read, with the second after its own. -/
theorem stretched_stamp_moved :
    (Value.timestamp stretchedStamp).text = "2024-01-02 01:00:05.500" ∧
      parseScalar "2024-01-02 01:00:05.500" =
        .timestamp ⟨stretchedStamp.date, ⟨3605, 500000000, by decide⟩⟩ ∧
      parseScalar (Value.timestamp stretchedStamp).text ≠ .timestamp stretchedStamp := by
  have text : (Value.timestamp stretchedStamp).text = "2024-01-02 01:00:05.500" := by decide
  have parsed : parseScalar (Value.timestamp stretchedStamp).text =
      .timestamp ⟨stretchedStamp.date, ⟨3605, 500000000, by decide⟩⟩ :=
    parseScalar_timestamp stretchedStamp
  refine ⟨text, text ▸ parsed, ?_⟩
  rw [parsed]
  intro same
  have seconds := congrArg (fun moved => moved.time.seconds) (Value.timestamp.inj same)
  exact absurd seconds (by decide)

end TableLoad.Source

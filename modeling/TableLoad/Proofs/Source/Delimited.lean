import TableLoad.Proofs.Inference.Alike
import TableLoad.Proofs.Json.Weights
import TableLoad.Source.Delimited

/-!
# Delimited texts are uniform

Whatever the bytes, the records read from a delimited text are built as its first line says:
they have as many values as it has fields, and carry its trimmed texts as names if it is a
header.  So no width is left to be compared with the header's, and the records pass for
records of one kind wherever a schema is inferred from them.
-/

set_option autoImplicit false

namespace TableLoad.Source

/-! ## Lines -/

theorem fieldTexts_ok (fields : List (List UInt8)) (texts : List String)
    (decoded : fieldTexts fields = .ok texts) : fields = texts.map Utf8.encode := by
  induction fields generalizing texts with
  | nil =>
    cases decoded
    rfl
  | cons field rest ih =>
    rw [fieldTexts] at decoded
    cases front : Utf8.decode field with
    | error fault =>
      rw [front] at decoded
      cases decoded
    | ok text =>
      rw [front] at decoded
      cases back : fieldTexts rest with
      | error fault =>
        rw [back] at decoded
        cases decoded
      | ok others =>
        rw [back] at decoded
        cases decoded
        rw [List.map_cons, Utf8.encode_of_decode field text front, ih others back]

theorem recordTexts_length (expected : Nat) (fields : List (List UInt8)) (texts : List String)
    (decoded : recordTexts expected fields = .ok texts) : texts.length = expected := by
  rw [recordTexts] at decoded
  split at decoded
  · rename_i width
    have size := congrArg List.length (fieldTexts_ok fields texts decoded)
    rw [List.length_map] at size
    exact size.symm.trans width
  · cases decoded

/-! ## Values -/

theorem soundlyTyped_ofInteger (n : Int) (value : Value) (fits : Value.ofInteger? n = some value) :
    value.SoundlyTyped := by
  rw [Value.ofInteger?] at fits
  split at fits
  · cases fits
    exact Value.soundlyTyped_of_type (.atom .int false) (fun _ _ => rfl) rfl
  · split at fits
    · cases fits
      exact Value.soundlyTyped_of_type (.atom .bigInt false) (fun _ _ => rfl) rfl
    · cases fits

theorem soundlyTyped_spelled (text : List Char) (value : Value)
    (spelled : spelled? text = some value) : value.SoundlyTyped := by
  rw [spelled?] at spelled
  split at spelled
  · cases spelled
    exact Value.soundlyTyped_null
  split at spelled
  · cases spelled
    exact Value.soundlyTyped_of_type (.atom .boolean false) (fun _ _ => rfl) rfl
  split at spelled
  · cases spelled
    exact Value.soundlyTyped_of_type (.atom .boolean false) (fun _ _ => rfl) rfl
  simp only [Option.or_eq_some_iff, Option.bind_eq_some_iff, Option.map_eq_some_iff] at spelled
  obtain ⟨n, _, integer⟩ | ⟨_, ⟨x, _, rfl⟩ | ⟨_, ⟨d, _, rfl⟩ | ⟨_, t, _, rfl⟩⟩⟩ := spelled
  · exact soundlyTyped_ofInteger n value integer
  · exact Value.soundlyTyped_of_type (.atom .double false) (fun _ _ => rfl) rfl
  · exact Value.soundlyTyped_of_type (.atom .date false) (fun _ _ => rfl) rfl
  · exact Value.soundlyTyped_of_type (.atom .timestamp false) (fun _ _ => rfl) rfl

theorem soundlyTyped_parseScalar (field : String) : (parseScalar field).SoundlyTyped := by
  rw [parseScalar]
  cases spelled : spelled? (Unicode.trim field.toList) with
  | none => exact Value.soundlyTyped_of_type (.atom .string false) (fun _ _ => rfl) rfl
  | some value => exact soundlyTyped_spelled _ value spelled

/-! ## Records -/

/-- The record of a line with these texts, under the names if there are any. -/
def recordOfTexts (names : Option (List String)) (texts : List String) : Record :=
  match names with
  | none => .positional .tuple (texts.map parseScalar)
  | some names => .named .row (names.zip (texts.map parseScalar))

theorem delimitedRecord_eq (names : Option (List String)) (index : Nat) (texts : List String)
    (width : ∀ header ∈ names, header.length = texts.length) :
    delimitedRecord names index (texts.map parseScalar) = .ok (recordOfTexts names texts) := by
  cases names with
  | none => rfl
  | some header =>
    have same : header.length = (texts.map parseScalar).length := by
      rw [List.length_map]
      exact width header rfl
    rw [delimitedRecord, Record.namedRow, if_pos same]
    rfl

theorem soundlyTyped_recordOfTexts (names : Option (List String)) (texts : List String) :
    ∀ value ∈ (recordOfTexts names texts).values, value.SoundlyTyped := by
  intro value member
  have among : value ∈ texts.map parseScalar := by
    cases names with
    | none => exact member
    | some header =>
      obtain ⟨entry, inside, rfl⟩ := List.mem_map.mp member
      exact (List.of_mem_zip inside).2
  obtain ⟨text, _, rfl⟩ := List.mem_map.mp among
  exact soundlyTyped_parseScalar text

theorem delimitedRecords_yields (names : Option (List String)) (expected : Nat)
    (width : ∀ header ∈ names, header.length = expected) (lines : List (List (List UInt8)))
    (index : Nat) :
    Yields (fun cause => ∃ place fault, cause = .record place fault)
      (fun records => ∀ record ∈ records, ∃ texts : List String,
        texts.length = expected ∧ record = recordOfTexts names texts)
      (delimitedRecords names expected index lines) := by
  induction lines generalizing index with
  | nil => exact fun _ member => absurd member List.not_mem_nil
  | cons fields rest ih =>
    rw [delimitedRecords]
    cases decoded : recordTexts expected fields with
    | error fault => exact ⟨index, fault, rfl⟩
    | ok texts =>
      have size := recordTexts_length expected fields texts decoded
      dsimp only
      rw [delimitedRecord_eq names index texts (size ▸ width)]
      show Yields _ _ (delimitedRecords names expected (index + 1) rest >>= fun records =>
        pure (recordOfTexts names texts :: records))
      refine yields_bind (ih (index + 1)) fun records later => ?_
      exact List.forall_mem_cons.mpr ⟨⟨texts, size, rfl⟩, later⟩

namespace Dialect

/-- The names that records get from the first line: its texts without the white space
around them if it is a header, else none. -/
def NamesFrom (dialect : Dialect) (first : List (List UInt8)) (names : Option (List String)) :
    Prop :=
  if dialect.hasHeader then
    ∃ texts : List String, first = texts.map Utf8.encode ∧
      names = some (texts.map Unicode.trimString)
  else names = none

variable {dialect : Dialect} {first : List (List UInt8)}

theorem NamesFrom.unique {names others : Option (List String)}
    (one : dialect.NamesFrom first names) (other : dialect.NamesFrom first others) :
    names = others := by
  unfold NamesFrom at one other
  split at one
  · rename_i header
    rw [if_pos header] at other
    obtain ⟨texts, rfl, rfl⟩ := one
    obtain ⟨again, same, rfl⟩ := other
    rw [List.map_injective_iff.mpr Utf8.encode_injective same]
  · rename_i header
    rw [if_neg header] at other
    rw [one, other]

theorem NamesFrom.width {names : Option (List String)} (named : dialect.NamesFrom first names) :
    ∀ header ∈ names, header.length = first.length := by
  intro header member
  unfold NamesFrom at named
  split at named
  · obtain ⟨texts, rfl, rfl⟩ := named
    cases member
    rw [List.length_map, List.length_map]
  · cases named.symm.trans member

theorem NamesFrom.isSome {names : Option (List String)} (named : dialect.NamesFrom first names) :
    names.isSome = dialect.hasHeader := by
  unfold NamesFrom at named
  split at named
  · rename_i header
    obtain ⟨texts, _, rfl⟩ := named
    exact header.symm
  · rename_i header
    rw [named]
    exact (Bool.eq_false_iff.mpr header).symm

/-- The record is built as the first line says. -/
structure Builds (dialect : Dialect) (first : List (List UInt8)) (record : Record) : Prop where
  shape : record.shape = if dialect.hasHeader then .namedRow else .tuple
  arity : record.arity = first.length
  names : dialect.NamesFrom first record.names?

theorem Builds.alike {a b : Record} (one : dialect.Builds first a)
    (other : dialect.Builds first b) : a.Alike b where
  shape := one.shape.trans other.shape.symm
  arity := one.arity.trans other.arity.symm
  names := one.names.unique other.names

theorem builds_recordOfTexts {names : Option (List String)} (named : dialect.NamesFrom first names)
    (texts : List String) (width : texts.length = first.length) :
    dialect.Builds first (recordOfTexts names texts) := by
  have flag := named.isSome
  cases names with
  | none =>
    refine ⟨?_, ?_, named⟩
    · rw [← flag]
      rfl
    · rw [recordOfTexts, Record.arity, List.length_map, width]
  | some header =>
    have size : header.length = (texts.map parseScalar).length := by
      rw [List.length_map, width]
      exact named.width header rfl
    have own : (recordOfTexts (some header) texts).names? = some header := by
      rw [recordOfTexts, Record.names?, List.map_fst_zip (Nat.le_of_eq size)]
    refine ⟨?_, ?_, by rwa [own]⟩
    · rw [← flag]
      rfl
    · rw [recordOfTexts, Record.arity, List.length_zip, ← size, Nat.min_self]
      exact named.width header rfl

end Dialect

theorem headerNames_yields (first : List (List UInt8)) :
    Yields (fun cause => ∃ fault, cause = .header fault)
      (fun names => ∃ texts : List String, first = texts.map Utf8.encode ∧
        names = texts.map Unicode.trimString)
      (headerNames first) := by
  rw [headerNames]
  cases decoded : fieldTexts first with
  | error fault => exact ⟨fault, rfl⟩
  | ok texts => exact ⟨texts, fieldTexts_ok first texts decoded, rfl⟩

/-- The failures that are left: bytes that are no text, and lines of another width than the
first one. -/
def DelimitedError.IsOfLine (cause : DelimitedError) : Prop :=
  (∃ fault, cause = .header fault) ∨ ∃ index fault, cause = .record index fault

/-- A record of the text, from a line of the text under the names that the first line
gives. -/
def Dialect.Reads (dialect : Dialect) (bytes : List UInt8) (record : Record) : Prop :=
  ∃ first names texts, (dialect.fields bytes).head? = some first ∧
    dialect.NamesFrom first names ∧ texts.length = first.length ∧
      record = recordOfTexts names texts

theorem readDelimited_yields (dialect : Dialect) (bytes : List UInt8) :
    Yields DelimitedError.IsOfLine (fun records => ∀ record ∈ records, dialect.Reads bytes record)
      (readDelimited dialect bytes) := by
  rw [readDelimited]
  cases lines : dialect.fields bytes with
  | nil => exact fun _ member => absurd member List.not_mem_nil
  | cons first rest =>
    have body : ∀ names, dialect.NamesFrom first names → ∀ lines,
        Yields DelimitedError.IsOfLine
          (fun records => ∀ record ∈ records, dialect.Reads bytes record)
          (delimitedRecords names first.length 0 lines) := by
      intro names named others
      refine yields_mono (fun cause ofRecord => .inr ofRecord) ?_
        (delimitedRecords_yields names first.length named.width others 0)
      intro records built record member
      obtain ⟨texts, width, whole⟩ := built record member
      exact ⟨first, names, texts, by rw [lines]; rfl, named, width, whole⟩
    dsimp only
    split
    · rename_i header
      refine yields_bind (yields_mono (fun _ ofHeader => .inl ofHeader) (fun _ fine => fine)
        (headerNames_yields first)) fun names named => ?_
      obtain ⟨texts, decoded, rfl⟩ := named
      refine body (some _) ?_ rest
      rw [Dialect.NamesFrom, if_pos header]
      exact ⟨texts, decoded, rfl⟩
    · rename_i header
      refine body none ?_ (first :: rest)
      rw [Dialect.NamesFrom, if_neg header]

/-- Records read from a delimited text are all alike: as many values as the first line has
fields, under its trimmed texts if it is a header and as tuples otherwise.  A width that
differs from the header's is never what reading fails for, and an inference without a hint
fails for nothing but types and names. -/
theorem delimited_records_uniform (dialect : Dialect) (bytes : List UInt8) :
    (∀ index values names,
      readDelimited dialect bytes ≠ .error (.headerWidth index values names)) ∧
    ∀ records, readDelimited dialect bytes = .ok records →
      (∀ record ∈ records, ∃ first, (dialect.fields bytes).head? = some first ∧
        dialect.Builds first record) ∧
      (∀ a ∈ records, ∀ b ∈ records, a.Alike b) ∧
      ∀ cause, inferSchema records none = .error cause → cause.IsOfAlike := by
  have yields := readDelimited_yields dialect bytes
  refine ⟨?_, ?_⟩
  · intro index values names failed
    rw [failed] at yields
    rcases yields with ⟨fault, impossible⟩ | ⟨place, fault, impossible⟩ <;> cases impossible
  · intro records read
    rw [read] at yields
    have built : ∀ record ∈ records, ∃ first, (dialect.fields bytes).head? = some first ∧
        dialect.Builds first record := by
      intro record member
      obtain ⟨first, names, texts, head, named, width, rfl⟩ := yields record member
      exact ⟨first, head, Dialect.builds_recordOfTexts named texts width⟩
    have alike : ∀ a ∈ records, ∀ b ∈ records, a.Alike b := by
      intro a memberA b memberB
      obtain ⟨first, head, one⟩ := built a memberA
      obtain ⟨same, again, other⟩ := built b memberB
      cases head.symm.trans again
      exact one.alike other
    refine ⟨built, alike, ?_⟩
    intro cause failed
    have outcome := inferSchema_of_alike records alike (by
      intro record member
      obtain ⟨_, names, texts, _, _, _, rfl⟩ := yields record member
      exact soundlyTyped_recordOfTexts names texts)
    rwa [failed] at outcome

def peopleBytes : List UInt8 :=
  Utf8.encode "id , name\n1,Ann\n\nx,\"Bo,b\""

def peopleRecords : List Record :=
  [.named .row [("id", .int 1), ("name", .string "Ann")],
    .named .row [("id", .string "x"), ("name", .string "Bo,b")]]

theorem people_read_alike :
    readDelimited .csv peopleBytes = .ok peopleRecords ∧
      (∀ a ∈ peopleRecords, ∀ b ∈ peopleRecords, a.Alike b) ∧
      (∀ record ∈ peopleRecords, ∃ first, (Dialect.csv.fields peopleBytes).head? = some first ∧
        Dialect.csv.Builds first record) ∧
      ∃ cause, inferSchema peopleRecords none = .error cause ∧ cause.IsTypeMismatch 1 ∧
        cause.IsOfAlike := by
  have read : readDelimited .csv peopleBytes = .ok peopleRecords := rfl
  obtain ⟨built, alike, kinds⟩ := (delimited_records_uniform .csv peopleBytes).2 _ read
  have failed : inferSchema peopleRecords none =
      .error (.typeMismatch 1 "id" (.atom .int false) (.atom .string false)) := by
    obtain ⟨first, second⟩ := List.forall_mem_cons.mp (alike _ List.mem_cons_self)
    have same := List.forall_mem_singleton.mp second
    rw [inferSchema, peopleRecords, inferRecords]
    simp only [observeRecords, checkShape_of_alike 0 first, checkShape_of_alike 1 same]
    rfl
  exact ⟨read, alike, built, _, failed, ⟨_, _, _, rfl⟩, kinds _ failed⟩

end TableLoad.Source

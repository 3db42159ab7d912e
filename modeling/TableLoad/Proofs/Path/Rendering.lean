import TableLoad.Proofs.Path.Grammar
import TableLoad.Proofs.Text.Trimming

/-!
# Texts of paths

A path without empty names is read back from its text, wherever it is read: no name
is taken from the session.  No two paths have one text, and backticks are written
only around the names that would not be read without them.
-/

set_option autoImplicit false

namespace TableLoad

namespace Path

theorem not_whiteSpace_of_identifier (c : Char) (letter : isIdentifierChar c = true) :
    Unicode.isWhiteSpace c = false := by
  have every : Unicode.whiteSpace.all (fun range =>
      (List.range' range.1 (range.2 - range.1 + 1)).all fun point =>
        !isIdentifierChar (Char.ofNat point)) = true := by
    decide +kernel
  by_contra blank
  rw [Bool.not_eq_false] at blank
  obtain ⟨range, member, above, below⟩ := (Unicode.whiteSpace.has_iff c).mp blank
  have points := List.all_eq_true.mp every range member
  have other := List.all_eq_true.mp points c.toNat (List.mem_range'_1.mpr ⟨above, by omega⟩)
  rw [Char.ofNat_toNat, letter] at other
  cases other

/-! ## Names as they are written -/

theorem isPlain_iff (name : List Char) :
    isPlain name = true ↔
      name ≠ [] ∧ (∀ c ∈ name, isIdentifierChar c = true) ∧ isReserved name = false := by
  simp [isPlain, and_assoc]

theorem escape_of_plain {name : List Char} (plain : isPlain name = true) : escape name = name := by
  rw [escape, if_pos plain]

theorem escape_of_not_plain {name : List Char} (other : ¬isPlain name = true) :
    escape name = '`' :: doubleBackticks name ++ ['`'] := by
  rw [escape, if_neg other]

theorem spelling_escape (name : List Char) : Spelling name (escape name) := by
  by_cases plain : isPlain name = true
  · rw [escape_of_plain plain]
    obtain ⟨_, characters, free⟩ := (isPlain_iff name).mp plain
    exact .plain characters ((isReserved_eq_false_iff name).mp free)
  · rw [escape_of_not_plain plain]
    exact .escaped

theorem escape_ne_nil (name : List Char) : escape name ≠ [] := by
  by_cases plain : isPlain name = true
  · rw [escape_of_plain plain]
    exact ((isPlain_iff name).mp plain).1
  · rw [escape_of_not_plain plain]
    exact List.cons_ne_nil _ _

theorem Spelling.edges {name piece : List Char} (spelling : Spelling name piece) (c : Char)
    (edge : piece.head? = some c ∨ piece.getLast? = some c) : Unicode.isWhiteSpace c = false := by
  cases spelling with
  | plain characters free =>
    apply not_whiteSpace_of_identifier
    apply characters
    rcases edge with first | last
    · exact List.mem_of_mem_head? first
    · exact List.mem_of_mem_getLast? last
  | escaped =>
    have backtick : c = '`' := by
      rcases edge with first | last
      · exact (Option.some.inj first).symm
      · rw [List.getLast?_concat] at last
        exact (Option.some.inj last).symm
    rw [backtick]
    decide +kernel

theorem escape_append_inj (name other rest more : List Char) (ends : EndsSegment rest)
    (stops : EndsSegment more) (same : escape name ++ rest = escape other ++ more) :
    name = other ∧ rest = more := by
  have closed : ∀ {left}, EndsSegment left → left.head? ≠ some '`' := by
    intro left after
    rcases after with rfl | ⟨tail, rfl⟩ <;> simp
  have bare : ∀ {word piece left}, isPlain word = true →
      word ++ left ≠ '`' :: piece := by
    intro word piece left plain impossible
    obtain ⟨present, characters, _⟩ := (isPlain_iff word).mp plain
    cases word with
    | nil => exact present rfl
    | cons c word =>
      have letter := characters c List.mem_cons_self
      rw [(List.cons.inj impossible).1, not_identifier_backtick] at letter
      cases letter
  by_cases plain : isPlain name = true
  · by_cases plainToo : isPlain other = true
    · rw [escape_of_plain plain, escape_of_plain plainToo] at same
      have read := readPlain_written rest ends name ((isPlain_iff name).mp plain).2.1
      rw [same, readPlain_written more stops other ((isPlain_iff other).mp plainToo).2.1] at read
      cases read
      exact ⟨rfl, rfl⟩
    · rw [escape_of_plain plain, escape_of_not_plain plainToo] at same
      exact absurd same (bare plain)
  · by_cases plainToo : isPlain other = true
    · rw [escape_of_not_plain plain, escape_of_plain plainToo] at same
      exact absurd same.symm (bare plainToo)
    · rw [escape_of_not_plain plain, escape_of_not_plain plainToo] at same
      simp only [List.cons_append, List.append_assoc, List.nil_append, List.cons.injEq,
        true_and] at same
      have read := readEscaped_doubled rest (closed ends) name
      rw [same, readEscaped_doubled more (closed stops) other] at read
      cases read
      exact ⟨rfl, rfl⟩

/-! ## Names that need no backticks -/

theorem length_le_doubleBackticks (name : List Char) :
    name.length ≤ (doubleBackticks name).length := by
  induction name with
  | nil => exact Nat.le_refl 0
  | cons c name ih =>
    rw [doubleBackticks]
    split
    all_goals
      simp only [List.length_cons]
      omega

theorem backtick_mem_escape_iff (name : List Char) :
    '`' ∈ escape name ↔ ¬isPlain name = true := by
  by_cases plain : isPlain name = true
  · rw [escape_of_plain plain]
    constructor
    · intro member
      have letter := ((isPlain_iff name).mp plain).2.1 '`' member
      rw [not_identifier_backtick] at letter
      cases letter
    · intro other
      exact absurd plain other
  · rw [escape_of_not_plain plain]
    simp [plain]

theorem escape_eq_self_iff (name : List Char) : escape name = name ↔ isPlain name = true := by
  constructor
  · intro same
    by_contra other
    have longer := length_le_doubleBackticks name
    have length := congrArg List.length same
    rw [escape_of_not_plain other] at length
    simp only [List.cons_append, List.length_cons, List.length_append, List.length_nil] at length
    omega
  · exact escape_of_plain

end Path

namespace WrittenPath

open TableLoad.Path

theorem parse_eq_ok_iff (input : String) (path : WrittenPath) :
    parse input = .ok path ↔
      ∃ names, ofSegments? names = some path ∧ Spells names (Unicode.trim input.toList) := by
  rw [← parseChars_ok_iff, parse]
  cases parseChars input.toList <;> simp

theorem eq_single_of_ofSegments {names : List (List Char)} {object : String}
    (placed : ofSegments? names = some ⟨none, none, object⟩) : names = [object.toList] := by
  unfold ofSegments? at placed
  split at placed
  · cases placed
    rw [String.toList_ofList]
  all_goals cases placed

theorem ofList_ne_empty {name : List Char} (present : name ≠ []) : String.ofList name ≠ "" := by
  intro empty
  exact present (by simpa using congrArg String.toList empty)

theorem object_of_ofSegments {names : List (List Char)} {path : WrittenPath}
    (placed : ofSegments? names = some path) (filled : ∀ name ∈ names, name ≠ []) :
    path.object ≠ "" := by
  unfold ofSegments? at placed
  split at placed
  all_goals cases placed
  all_goals
    apply ofList_ne_empty
    apply filled
    simp

/-- A name by itself, written with backticks where they are needed. -/
def nameText (name : String) : String :=
  String.ofList (escape name.toList)

theorem parse_nameText (name : String) (present : name ≠ "") :
    parse (nameText name) = .ok ⟨none, none, name⟩ := by
  have spelling := spelling_escape name.toList
  have kept : Unicode.trim (escape name.toList) = escape name.toList :=
    Unicode.trim_eq_self _ (fun c first => spelling.edges c (.inl first))
      fun c last => spelling.edges c (.inr last)
  rw [parse_eq_ok_iff, nameText, String.toList_ofList, kept]
  refine ⟨[name.toList], by simp [ofSegments?], ?_⟩
  rw [spells_single_iff]
  exact ⟨by simpa [String.toList_eq_nil_iff] using present, spelling⟩

theorem parse_self_iff (name : String) :
    parse name = .ok ⟨none, none, name⟩ ↔ isPlain name.toList = true := by
  constructor
  · intro parsed
    obtain ⟨names, placed, spells⟩ := (parse_eq_ok_iff _ _).mp parsed
    rw [eq_single_of_ofSegments placed, spells_single_iff] at spells
    obtain ⟨present, spelling⟩ := spells
    have shorter := Unicode.trim_length_le name.toList
    generalize Unicode.trim name.toList = piece at spelling shorter
    cases spelling with
    | plain characters free =>
      exact (isPlain_iff _).mpr ⟨present, characters, (isReserved_eq_false_iff _).mpr free⟩
    | escaped =>
      -- Between backticks the name would be longer than what it was read from.
      have longer := length_le_doubleBackticks name.toList
      simp only [List.cons_append, List.length_cons, List.length_append, List.length_nil] at shorter
      omega
  · intro plain
    have present : name ≠ "" := by
      rintro rfl
      exact ((isPlain_iff _).mp plain).1 rfl
    have read := parse_nameText name present
    rwa [nameText, escape_of_plain plain, String.ofList_toList] at read

end WrittenPath

namespace ObjectPath

open TableLoad.Path

structure Filled (path : ObjectPath) : Prop where
  catalog : path.catalog ≠ ""
  database : path.database ≠ ""
  object : path.object ≠ ""

theorem trim_chars (path : ObjectPath) : Unicode.trim path.chars = path.chars := by
  have catalog := spelling_escape path.catalog.toList
  have object := spelling_escape path.object.toList
  apply Unicode.trim_eq_self
  · intro c first
    apply catalog.edges c
    left
    rwa [chars, List.append_assoc, List.head?_append_of_ne_nil _ (escape_ne_nil _)] at first
  · intro c last
    apply object.edges c
    right
    rwa [chars, List.getLast?_append_of_ne_nil _ (List.cons_ne_nil _ _),
      List.getLast?_cons_of_ne_nil (escape_ne_nil _)] at last

theorem spells_chars (path : ObjectPath) (filled : path.Filled) :
    Spells [path.catalog.toList, path.database.toList, path.object.toList] path.chars := by
  constructor
  · simp [String.toList_eq_nil_iff, filled.catalog, filled.database, filled.object]
  · refine ⟨[escape path.catalog.toList, escape path.database.toList, escape path.object.toList],
      ?_, ?_⟩
    · exact .cons (spelling_escape _) (.cons (spelling_escape _) (.cons (spelling_escape _) .nil))
    · simp [chars, List.intercalate_cons_cons]

theorem parse_text (path : ObjectPath) (filled : path.Filled) :
    WrittenPath.parse path.text = .ok ⟨some path.catalog, some path.database, path.object⟩ := by
  rw [WrittenPath.parse_eq_ok_iff, text, String.toList_ofList, trim_chars]
  refine ⟨_, ?_, path.spells_chars filled⟩
  simp [WrittenPath.ofSegments?]

theorem ofText_text (path : ObjectPath) (filled : path.Filled) (catalog database : String) :
    ofText path.text catalog database = .ok path := by
  rw [ofText, path.parse_text filled]
  rfl

theorem ofText_nameText (name : String) (present : name ≠ "") (catalog database : String) :
    ofText (WrittenPath.nameText name) catalog database = .ok ⟨catalog, database, name⟩ := by
  rw [ofText, WrittenPath.parse_nameText name present]
  rfl

theorem object_of_ofText {input catalog database : String} {path : ObjectPath}
    (resolved : ofText input catalog database = .ok path) : path.object ≠ "" := by
  cases parsed : WrittenPath.parse input with
  | error cause =>
    rw [ofText, parsed] at resolved
    cases resolved
  | ok written =>
    rw [ofText, parsed] at resolved
    cases resolved
    obtain ⟨names, placed, spells⟩ := (WrittenPath.parse_eq_ok_iff _ _).mp parsed
    exact WrittenPath.object_of_ofSegments placed spells.filled

/-- An empty name is written, but no reader takes it for a name. -/
theorem filled_of_ofText (path : ObjectPath)
    (back : ∀ catalog database, ofText path.text catalog database = .ok path) : path.Filled := by
  have names : ∃ written names, WrittenPath.ofSegments? names = some written ∧
      (∀ name ∈ names, name ≠ []) ∧
      ∀ catalog database, written.resolve catalog database = path := by
    cases parsed : WrittenPath.parse path.text with
    | error cause =>
      have failed := back "" ""
      rw [ofText, parsed] at failed
      cases failed
    | ok written =>
      obtain ⟨names, placed, spells⟩ := (WrittenPath.parse_eq_ok_iff _ _).mp parsed
      refine ⟨written, names, placed, spells.filled, ?_⟩
      intro catalog database
      have resolved := back catalog database
      rw [ofText, parsed] at resolved
      exact Except.ok.inj resolved
  obtain ⟨written, names, placed, filled, resolved⟩ := names
  -- A name that the text leaves out would follow the session, so all three are in it.
  have one := resolved "" "a"
  have other := resolved "a" "b"
  unfold WrittenPath.ofSegments? at placed
  split at placed
  all_goals cases placed
  · rw [← one] at other
    simp [WrittenPath.resolve] at other
  · rw [← one] at other
    simp [WrittenPath.resolve] at other
  · rw [← one]
    simp only [List.mem_cons, List.not_mem_nil, or_false, forall_eq_or_imp, forall_eq] at filled
    exact ⟨WrittenPath.ofList_ne_empty filled.1, WrittenPath.ofList_ne_empty filled.2.1,
      WrittenPath.ofList_ne_empty filled.2.2⟩

theorem text_injective : Function.Injective text := by
  intro path other same
  have chars : path.chars = other.chars := by
    have lists := congrArg String.toList same
    rwa [text, text, String.toList_ofList, String.toList_ofList] at lists
  simp only [ObjectPath.chars, List.append_assoc, List.cons_append] at chars
  obtain ⟨catalogs, rest⟩ := escape_append_inj _ _ _ _ (.inr ⟨_, rfl⟩) (.inr ⟨_, rfl⟩) chars
  obtain ⟨databases, last⟩ :=
    escape_append_inj _ _ _ _ (.inr ⟨_, rfl⟩) (.inr ⟨_, rfl⟩) (List.cons.inj rest).2
  have objects : escape path.object.toList ++ [] = escape other.object.toList ++ [] := by
    rw [List.append_nil, List.append_nil, (List.cons.inj last).2]
  obtain ⟨objects, _⟩ := escape_append_inj _ _ _ _ (.inl rfl) (.inl rfl) objects
  cases path
  cases other
  rw [ObjectPath.mk.injEq]
  exact ⟨String.toList_inj.mp catalogs, String.toList_inj.mp databases,
    String.toList_inj.mp objects⟩

/-- A path is read back from its text in every session exactly if none of its names is
empty, and no two paths have one text.  A name is written without backticks, and so as
it is, exactly if it is then read as itself. -/
theorem rendered_path_resolves :
    (∀ path : ObjectPath,
      path.Filled ↔ ∀ catalog database, ofText path.text catalog database = .ok path) ∧
    Function.Injective text ∧
    ∀ name : String,
      ('`' ∉ escape name.toList ↔ WrittenPath.parse name = .ok ⟨none, none, name⟩) ∧
      (escape name.toList = name.toList ↔ WrittenPath.parse name = .ok ⟨none, none, name⟩) := by
  refine ⟨?_, text_injective, ?_⟩
  · intro path
    exact ⟨path.ofText_text, path.filled_of_ofText⟩
  · intro name
    rw [WrittenPath.parse_self_iff, backtick_mem_escape_iff, escape_eq_self_iff, not_not]
    exact ⟨Iff.rfl, Iff.rfl⟩

example : ObjectPath.text ⟨"a.b", "select", "orders"⟩ = "`a.b`.`select`.orders" := by
  decide +kernel

end ObjectPath

end TableLoad

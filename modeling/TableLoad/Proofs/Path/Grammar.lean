import Mathlib
import TableLoad.Path.Basic

/-!
# The grammar of paths

A path is one to three names with dots between them, each written as it is or
between backticks.  Reading accepts exactly what is so written, and no text is so
written in two ways.
-/

set_option autoImplicit false

namespace TableLoad.Path

/-! ## Spellings -/

/-- The name is the keyword with any of its letters in lower case. -/
def InAnyCase (keyword name : List Char) : Prop :=
  List.Forall₂ (fun upper c => c = upper ∨ c = upper.toLower) keyword name

/-- How a name is written: as it is, if that is an identifier and no keyword, or
between backticks, its own backticks doubled. -/
inductive Spelling (name : List Char) : List Char → Prop
  | plain (characters : ∀ c ∈ name, isIdentifierChar c = true)
      (free : ∀ keyword ∈ keywords, ¬InAnyCase keyword.toList name) : Spelling name name
  | escaped : Spelling name ('`' :: doubleBackticks name ++ ['`'])

/-- The text is the names in some spellings with dots between them; no name is
empty. -/
structure Spells (names : List (List Char)) (text : List Char) : Prop where
  filled : ∀ name ∈ names, name ≠ []
  pieces : ∃ pieces, List.Forall₂ Spelling names pieces ∧ text = List.intercalate ['.'] pieces

theorem spells_single_iff (name text : List Char) :
    Spells [name] text ↔ name ≠ [] ∧ Spelling name text := by
  constructor
  · intro spells
    obtain ⟨pieces, each, rfl⟩ := spells.pieces
    cases each with
    | cons first none =>
      cases none
      refine ⟨spells.filled name List.mem_cons_self, ?_⟩
      simpa using first
  · intro spelled
    obtain ⟨filled, spelling⟩ := spelled
    refine ⟨by simpa using filled, [text], .cons spelling .nil, ?_⟩
    simp

theorem spells_cons_iff (name next : List Char) (others : List (List Char)) (text : List Char) :
    Spells (name :: next :: others) text ↔
      name ≠ [] ∧ ∃ piece rest, Spelling name piece ∧ text = piece ++ '.' :: rest ∧
        Spells (next :: others) rest := by
  constructor
  · intro spells
    obtain ⟨filled, pieces, each, rfl⟩ := spells
    cases each with
    | @cons _ piece _ later first each =>
      cases each with
      | @cons _ second _ later second' each =>
        refine ⟨filled name List.mem_cons_self, piece, _, first, ?_,
          fun other member => filled other (List.mem_cons_of_mem name member), _,
          .cons second' each, rfl⟩
        simp [List.intercalate_cons_cons]
  · intro spelled
    obtain ⟨some, piece, rest, first, rfl, filled, pieces, each, rfl⟩ := spelled
    refine ⟨?_, piece :: pieces, .cons first each, ?_⟩
    · intro other member
      rcases List.mem_cons.mp member with rfl | inside
      · exact some
      · exact filled other inside
    · cases each with
      | cons second each => simp [List.intercalate_cons_cons]

/-! ## Keywords -/

theorem keywords_upper : ∀ keyword ∈ keywords, ∀ c ∈ keyword.toList, c.isUpper = true := by
  have every : keywords.all (fun keyword => keyword.toList.all Char.isUpper) = true := by
    decide +kernel
  intro keyword member c letter
  exact List.all_eq_true.mp (List.all_eq_true.mp every keyword member) c letter

theorem eq_toUpper_iff (upper c : Char) (letter : upper.isUpper = true) :
    upper = c.toUpper ↔ c = upper ∨ c = upper.toLower := by
  have raised : upper.toUpper = upper :=
    Char.toUpper_eq_of_not_isLower (Char.not_isLower_of_isUpper letter)
  constructor
  · intro same
    by_cases lower : c.isLower = true
    · right
      rw [same, Char.toLower_toUpper_eq_toLower,
        Char.toLower_eq_of_not_isUpper (Char.not_isUpper_of_isLower lower)]
    · left
      rw [same, Char.toUpper_eq_of_not_isLower lower]
  · rintro (rfl | rfl)
    · exact raised.symm
    · rw [Char.toUpper_toLower_eq_toUpper, raised]

theorem eq_upperAscii_iff (keyword : List Char) (letters : ∀ c ∈ keyword, c.isUpper = true) :
    ∀ name, keyword = upperAscii name ↔ InAnyCase keyword name := by
  induction keyword with
  | nil =>
    intro name
    cases name <;> simp [upperAscii, InAnyCase]
  | cons upper keyword ih =>
    intro name
    cases name with
    | nil => simp [upperAscii, InAnyCase]
    | cons c name =>
      have first := eq_toUpper_iff upper c (letters upper List.mem_cons_self)
      have later := ih (fun other member => letters other (List.mem_cons_of_mem upper member)) name
      unfold upperAscii InAnyCase at later ⊢
      rw [List.map_cons, List.cons.injEq, List.forall₂_cons, first, later]

theorem isReserved_iff (name : List Char) :
    isReserved name = true ↔ ∃ keyword ∈ keywords, InAnyCase keyword.toList name := by
  unfold isReserved
  rw [List.any_eq_true]
  apply exists_congr
  intro keyword
  apply and_congr_right
  intro member
  rw [decide_eq_true_eq]
  exact eq_upperAscii_iff keyword.toList (keywords_upper keyword member) name

/-! ## Segments -/

theorem not_identifier_dot : isIdentifierChar '.' = false := by
  decide +kernel

theorem not_identifier_backtick : isIdentifierChar '`' = false := by
  decide +kernel

theorem readEscaped_closing (rest : List Char) (closed : rest.head? ≠ some '`') :
    readEscaped ('`' :: rest) = .ok ([], rest) := by
  apply readEscaped.eq_3
  intro more same
  rw [same] at closed
  exact closed rfl

theorem readEscaped_other (c : Char) (rest : List Char) (other : c ≠ '`') :
    readEscaped (c :: rest) =
      (readEscaped rest).map fun (name, rest) => (c :: name, rest) := by
  apply readEscaped.eq_4
  · intro _ same
    exact absurd same other
  · exact other

theorem readEscaped_doubled (rest : List Char) (closed : rest.head? ≠ some '`') :
    ∀ name, readEscaped (doubleBackticks name ++ '`' :: rest) = .ok (name, rest) := by
  intro name
  induction name with
  | nil => exact readEscaped_closing rest closed
  | cons c name ih =>
    by_cases backtick : c = '`'
    · subst backtick
      simp [doubleBackticks, readEscaped, ih, Except.map]
    · rw [doubleBackticks, if_neg backtick, List.cons_append, readEscaped_other c _ backtick, ih]
      rfl

theorem readEscaped_ok_iff : ∀ text name rest, readEscaped text = .ok (name, rest) ↔
    text = doubleBackticks name ++ '`' :: rest ∧ rest.head? ≠ some '`' := by
  intro text name rest
  constructor
  · intro read
    induction text using readEscaped.induct generalizing name with
    | case1 => cases read
    | case2 more ih =>
      rw [readEscaped] at read
      cases inner : readEscaped more with
      | error fault =>
        rw [inner] at read
        cases read
      | ok found =>
        rw [inner] at read
        cases read
        obtain ⟨rfl, closed⟩ := ih found.1 inner
        exact ⟨by simp [doubleBackticks], closed⟩
    | case3 more alone =>
      rw [readEscaped.eq_3 more alone] at read
      cases read
      refine ⟨rfl, ?_⟩
      intro head
      obtain ⟨tail, same⟩ := List.head?_eq_some_iff.mp head
      exact alone tail same
    | case4 c more _ other ih =>
      rw [readEscaped_other c more other] at read
      cases inner : readEscaped more with
      | error fault =>
        rw [inner] at read
        cases read
      | ok found =>
        rw [inner] at read
        cases read
        obtain ⟨rfl, closed⟩ := ih found.1 inner
        refine ⟨?_, closed⟩
        rw [doubleBackticks, if_neg other]
        rfl
  · intro written
    obtain ⟨rfl, closed⟩ := written
    exact readEscaped_doubled rest closed name

def EndsSegment (rest : List Char) : Prop :=
  rest = [] ∨ ∃ more, rest = '.' :: more

theorem readPlain_written (rest : List Char) (ends : EndsSegment rest) :
    ∀ name, (∀ c ∈ name, isIdentifierChar c = true) → readPlain (name ++ rest) = .ok (name, rest) := by
  intro name
  induction name with
  | nil =>
    intro _
    rcases ends with rfl | ⟨more, rfl⟩
    · rfl
    · rw [List.nil_append, readPlain, if_pos rfl]
  | cons c name ih =>
    intro characters
    have letter := characters c List.mem_cons_self
    have dot : c ≠ '.' := by
      rintro rfl
      rw [not_identifier_dot] at letter
      cases letter
    have later := ih fun other member => characters other (List.mem_cons_of_mem c member)
    rw [List.cons_append, readPlain, if_neg dot, if_pos letter, later]
    rfl

theorem readPlain_ok_iff : ∀ text name rest, readPlain text = .ok (name, rest) ↔
    text = name ++ rest ∧ (∀ c ∈ name, isIdentifierChar c = true) ∧ EndsSegment rest := by
  intro text name rest
  constructor
  · intro read
    induction text generalizing name with
    | nil =>
      cases read
      exact ⟨rfl, by simp, .inl rfl⟩
    | cons c text ih =>
      rw [readPlain] at read
      split at read
      · rename_i dot
        cases read
        exact ⟨rfl, by simp, .inr ⟨text, by rw [dot]⟩⟩
      · split at read
        · rename_i letter
          cases inner : readPlain text with
          | error fault =>
            rw [inner] at read
            cases read
          | ok found =>
            rw [inner] at read
            cases read
            obtain ⟨rfl, characters, ends⟩ := ih found.1 inner
            refine ⟨rfl, ?_, ends⟩
            intro other member
            rcases List.mem_cons.mp member with rfl | inside
            · exact letter
            · exact characters other inside
        · cases read
  · intro written
    obtain ⟨rfl, characters, ends⟩ := written
    exact readPlain_written rest ends name characters

theorem filled_ok_iff (found left name rest : List Char) :
    ((if found.isEmpty then .error .emptySegment else .ok (found, left)) :
        Except Fault (List Char × List Char)) = .ok (name, rest) ↔
      (found, left) = (name, rest) ∧ name ≠ [] := by
  cases found with
  | nil =>
    constructor
    · intro read
      cases read
    · intro same
      obtain ⟨same, present⟩ := same
      cases same
      exact absurd rfl present
  | cons c found =>
    rw [if_neg (by simp), Except.ok.injEq]
    constructor
    · intro same
      cases same
      exact ⟨rfl, by simp⟩
    · intro same
      exact same.1

theorem readSegment_escaped_iff (body name rest : List Char) :
    readSegment ('`' :: body) = .ok (name, rest) ↔
      readEscaped body = .ok (name, rest) ∧ EndsSegment rest ∧ name ≠ [] := by
  cases read : readEscaped body with
  | error fault => simp [readSegment, read, bind, Except.bind]
  | ok found =>
    obtain ⟨found, left⟩ := found
    rw [Except.ok.injEq]
    by_cases ends : EndsSegment left
    · have passed : readSegment ('`' :: body) =
          if found.isEmpty then .error .emptySegment else .ok (found, left) := by
        rcases ends with rfl | ⟨more, rfl⟩
        all_goals
          simp only [readSegment, read]
          rfl
      rw [passed, filled_ok_iff]
      constructor
      · intro written
        obtain ⟨same, present⟩ := written
        cases same
        exact ⟨rfl, ends, present⟩
      · intro written
        exact ⟨written.1, written.2.2⟩
    · have refused : ∃ fault, readSegment ('`' :: body) = .error fault := by
        cases left with
        | nil => exact absurd (.inl rfl) ends
        | cons c left =>
          have other : c ≠ '.' := by
            rintro rfl
            exact ends (.inr ⟨left, rfl⟩)
          refine ⟨.afterBacktick c, ?_⟩
          simp only [readSegment, read, bind, Except.bind, if_neg other]
          rfl
      obtain ⟨fault, failed⟩ := refused
      rw [failed]
      constructor
      · intro impossible
        cases impossible
      · intro written
        obtain ⟨same, stops, _⟩ := written
        cases same
        exact absurd stops ends

theorem readSegment_plain_iff (text name rest : List Char) (bare : text.head? ≠ some '`') :
    readSegment text = .ok (name, rest) ↔
      readPlain text = .ok (name, rest) ∧ isReserved name = false ∧ name ≠ [] := by
  have whole : readSegment text =
      match readPlain text with
      | .error fault => .error fault
      | .ok (found, left) =>
        if isReserved found then .error (.reserved (String.ofList found))
        else if found.isEmpty then .error .emptySegment else .ok (found, left) := by
    unfold readSegment
    split
    · exact absurd rfl bare
    · cases readPlain text with
      | error fault => rfl
      | ok found =>
        obtain ⟨found, left⟩ := found
        simp only [bind, Except.bind]
        cases isReserved found <;> rfl
  rw [whole]
  cases readPlain text with
  | error fault => simp
  | ok found =>
    obtain ⟨found, left⟩ := found
    dsimp only
    cases reserved : isReserved found with
    | true =>
      constructor
      · intro impossible
        cases impossible
      · intro written
        obtain ⟨same, free, _⟩ := written
        cases same
        rw [reserved] at free
        cases free
    | false =>
      rw [if_neg (by simp), filled_ok_iff, Except.ok.injEq]
      constructor
      · intro written
        obtain ⟨same, present⟩ := written
        cases same
        exact ⟨rfl, reserved, present⟩
      · intro written
        exact ⟨written.1, written.2.2⟩

theorem isReserved_eq_false_iff (name : List Char) :
    isReserved name = false ↔ ∀ keyword ∈ keywords, ¬InAnyCase keyword.toList name := by
  rw [← Bool.not_eq_true, isReserved_iff]
  simp

theorem readSegment_ok_iff (text name rest : List Char) :
    readSegment text = .ok (name, rest) ↔
      name ≠ [] ∧ EndsSegment rest ∧ ∃ piece, Spelling name piece ∧ text = piece ++ rest := by
  constructor
  · intro read
    by_cases escaped : text.head? = some '`'
    · obtain ⟨body, rfl⟩ := List.head?_eq_some_iff.mp escaped
      obtain ⟨inner, ends, present⟩ := (readSegment_escaped_iff body name rest).mp read
      obtain ⟨rfl, _⟩ := (readEscaped_ok_iff body name rest).mp inner
      exact ⟨present, ends, _, .escaped, by simp⟩
    · obtain ⟨inner, reserved, present⟩ := (readSegment_plain_iff text name rest escaped).mp read
      obtain ⟨rfl, characters, ends⟩ := (readPlain_ok_iff text name rest).mp inner
      exact ⟨present, ends, name, .plain characters ((isReserved_eq_false_iff name).mp reserved), rfl⟩
  · intro written
    obtain ⟨present, ends, piece, spelling, rfl⟩ := written
    cases spelling with
    | plain characters free =>
      have bare : (name ++ rest).head? ≠ some '`' := by
        cases name with
        | nil => exact absurd rfl present
        | cons c name =>
          have letter := characters c List.mem_cons_self
          intro backtick
          cases backtick
          rw [not_identifier_backtick] at letter
          cases letter
      rw [readSegment_plain_iff _ _ _ bare]
      exact ⟨readPlain_written rest ends name characters, (isReserved_eq_false_iff name).mpr free,
        present⟩
    | escaped =>
      have closed : rest.head? ≠ some '`' := by
        rcases ends with rfl | ⟨more, rfl⟩ <;> simp
      have whole : '`' :: doubleBackticks name ++ ['`'] ++ rest =
          '`' :: (doubleBackticks name ++ '`' :: rest) := by simp
      rw [whole, readSegment_escaped_iff]
      exact ⟨readEscaped_doubled rest closed name, ends, present⟩

/-! ## Paths -/

theorem readSegments_succ (room : Nat) (text : List Char) :
    readSegments (room + 1) text =
      match readSegment text with
      | .error fault => .error fault
      | .ok (name, []) => .ok [name]
      | .ok (name, _ :: rest) => (readSegments room rest).map (name :: ·) := by
  rw [readSegments]
  cases readSegment text with
  | error fault => rfl
  | ok found =>
    obtain ⟨name, rest⟩ := found
    cases rest with
    | nil => rfl
    | cons c rest =>
      simp only [bind, Except.bind]
      cases readSegments room rest <;> rfl

theorem readSegments_ok_iff (room : Nat) : ∀ text names, readSegments room text = .ok names ↔
    names ≠ [] ∧ names.length ≤ room ∧ Spells names text := by
  induction room with
  | zero =>
    -- Without room a segment is still read, but only to be refused.
    intro text names
    have refused : readSegments 0 text ≠ .ok names := by
      rw [readSegments]
      cases readSegment text with
      | error fault => exact nofun
      | ok found => exact nofun
    constructor
    · intro read
      exact absurd read refused
    · intro written
      obtain ⟨present, none, _⟩ := written
      exact absurd (List.length_eq_zero_iff.mp (Nat.le_zero.mp none)) present
  | succ room ih =>
    intro text names
    rw [readSegments_succ]
    constructor
    · intro read
      cases segment : readSegment text with
      | error fault =>
        rw [segment] at read
        cases read
      | ok found =>
        obtain ⟨name, rest⟩ := found
        rw [segment] at read
        obtain ⟨filled, ends, piece, spelling, rfl⟩ := (readSegment_ok_iff _ _ _).mp segment
        rcases ends with rfl | ⟨more, rfl⟩
        · cases read
          rw [List.append_nil]
          exact ⟨by simp, by simp, (spells_single_iff name piece).mpr ⟨filled, spelling⟩⟩
        · dsimp only at read
          cases later : readSegments room more with
          | error fault =>
            rw [later] at read
            cases read
          | ok others =>
            rw [later] at read
            cases read
            obtain ⟨present, few, spells⟩ := (ih more others).mp later
            cases others with
            | nil => exact absurd rfl present
            | cons next others =>
              refine ⟨by simp, Nat.succ_le_succ few, ?_⟩
              exact (spells_cons_iff name next others _).mpr
                ⟨filled, piece, more, spelling, rfl, spells⟩
    · intro written
      obtain ⟨present, few, spells⟩ := written
      match names, present with
      | [name], _ =>
        obtain ⟨filled, spelling⟩ := (spells_single_iff name text).mp spells
        have segment := (readSegment_ok_iff text name []).mpr
          ⟨filled, .inl rfl, text, spelling, by simp⟩
        rw [segment]
      | name :: next :: others, _ =>
        obtain ⟨filled, piece, rest, spelling, rfl, later⟩ :=
          (spells_cons_iff name next others text).mp spells
        have segment := (readSegment_ok_iff (piece ++ '.' :: rest) name ('.' :: rest)).mpr
          ⟨filled, .inr ⟨rest, rfl⟩, piece, spelling, rfl⟩
        have read := (ih rest (next :: others)).mpr ⟨by simp, Nat.le_of_succ_le_succ few, later⟩
        rw [segment]
        dsimp only
        rw [read]
        rfl

theorem not_spells_nil (names : List (List Char)) (present : names ≠ []) : ¬Spells names [] := by
  intro spells
  have read := (readSegments_ok_iff names.length [] names).mpr ⟨present, Nat.le_refl _, spells⟩
  cases names with
  | nil => exact present rfl
  | cons name others => cases read

/-- No text spells two lists of names: reading it gives both. -/
theorem Spells.unique {names others : List (List Char)} {text : List Char}
    (first : Spells names text) (second : Spells others text) : names = others := by
  by_cases empty : text = []
  · subst empty
    have none : names = [] := by
      by_contra present
      exact not_spells_nil names present first
    have neither : others = [] := by
      by_contra present
      exact not_spells_nil others present second
    rw [none, neither]
  · have present : ∀ spelled, Spells spelled text → spelled ≠ [] := by
      rintro _ ⟨_, pieces, each, whole⟩ rfl
      cases each
      exact empty whole
    have one := (readSegments_ok_iff (max names.length others.length) text names).mpr
      ⟨present names first, Nat.le_max_left _ _, first⟩
    have other := (readSegments_ok_iff (max names.length others.length) text others).mpr
      ⟨present others second, Nat.le_max_right _ _, second⟩
    rw [one] at other
    exact Except.ok.inj other

end TableLoad.Path

namespace TableLoad.WrittenPath

open TableLoad.Path

theorem length_of_ofSegments {names : List (List Char)} {path : WrittenPath}
    (placed : ofSegments? names = some path) : names ≠ [] ∧ names.length ≤ maxSegments := by
  unfold ofSegments? at placed
  split at placed
  all_goals simp_all [maxSegments]

theorem parseChars_eq (text : List Char) :
    parseChars text =
      if (Unicode.trim text).isEmpty then .error .empty
      else
        match readSegments maxSegments (Unicode.trim text) with
        | .error fault => .error fault
        | .ok names =>
          match ofSegments? names with
          | some path => .ok path
          | none => .error .tooManySegments := by
  simp only [parseChars, bind, Except.bind]
  split
  · rfl
  · cases readSegments maxSegments (Unicode.trim text) with
    | error fault => rfl
    | ok names =>
      dsimp only
      cases ofSegments? names <;> rfl

theorem parseChars_ok_iff (text : List Char) (path : WrittenPath) :
    parseChars text = .ok path ↔
      ∃ names, ofSegments? names = some path ∧ Spells names (Unicode.trim text) := by
  have reading := readSegments_ok_iff maxSegments (Unicode.trim text)
  rw [parseChars_eq]
  constructor
  · intro parsed
    split at parsed
    · cases parsed
    · cases read : readSegments maxSegments (Unicode.trim text) with
      | error fault =>
        rw [read] at parsed
        cases parsed
      | ok names =>
        rw [read] at parsed
        dsimp only at parsed
        split at parsed
        · rename_i placed
          cases parsed
          exact ⟨names, placed, ((reading names).mp read).2.2⟩
        · cases parsed
  · intro written
    obtain ⟨names, placed, spells⟩ := written
    obtain ⟨present, few⟩ := length_of_ofSegments placed
    have filled : ¬(Unicode.trim text).isEmpty = true := by
      rw [List.isEmpty_iff]
      intro empty
      rw [empty] at spells
      exact not_spells_nil names present spells
    rw [if_neg filled, (reading names).mpr ⟨present, few, spells⟩]
    dsimp only
    rw [placed]

/-- A path is parsed exactly if the text without the white space around it spells
one, two or three names; they are the object, the database and the object, or the
catalog, the database and the object.  No text spells two lists of names. -/
theorem parse_ok_iff_spelled (input : String) :
    (∀ path, parse input = .ok path ↔
      ∃ names, ofSegments? names = some path ∧ Spells names (Unicode.trim input.toList)) ∧
    ∀ names others, Spells names (Unicode.trim input.toList) →
      Spells others (Unicode.trim input.toList) → names = others := by
  constructor
  · intro path
    rw [← parseChars_ok_iff, parse]
    cases parseChars input.toList <;> simp
  · intro names others first second
    exact first.unique second

theorem spaced_path_spelled :
    Spells [['a'], "b.`".toList] (Unicode.trim " a.`b.```\t".toList) ∧
      parse " a.`b.```\t" = .ok ⟨none, some "a", "b.`"⟩ ∧
      ∀ names, Spells names (Unicode.trim " a.`b.```\t".toList) → names = [['a'], "b.`".toList] := by
  have trimmed : Unicode.trim " a.`b.```\t".toList = "a.`b.```".toList := by decide +kernel
  have bare : Spelling ['a'] ['a'] := by
    apply Spelling.plain
    · intro c only
      obtain rfl := List.mem_singleton.mp only
      decide +kernel
    · rw [← isReserved_eq_false_iff]
      decide +kernel
  have quoted : Spelling "b.`".toList "`b.```".toList := Spelling.escaped
  have spells : Spells [['a'], "b.`".toList] (Unicode.trim " a.`b.```\t".toList) := by
    rw [trimmed]
    exact ⟨by decide, _, .cons bare (.cons quoted .nil), rfl⟩
  obtain ⟨parsed, unique⟩ := parse_ok_iff_spelled " a.`b.```\t"
  refine ⟨spells, (parsed _).mpr ⟨_, rfl, spells⟩, ?_⟩
  intro names other
  exact unique names _ other spells

end TableLoad.WrittenPath
